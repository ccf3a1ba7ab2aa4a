import ModelHub.Foundations.Binary64

/-!
# The memory budget

`computeBudget` of `packages/core/src/memory.ts`: how much of a device can be
scheduled onto.  JavaScript numbers are finite doubles here, that is rationals,
and every operation that can round goes through `Binary64`.

The function clamps twice: the memory held by others is clamped into
`[0, total]`, and so is what remains of the ceiling.  `availableBytes_eq` shows
that on whole byte counts both clamps collapse to one formula,

  `available = max 0 (ceiling - max used managed - headroom)`,

although the inputs may exceed the device and our own accounting may exceed
what the driver reports.  Below zero a difference may even leave the exactly
representable integers; `clamp_sub_sub_sub` is where this is seen not to matter.
-/

namespace ModelHub.Core

open Binary64

/-- `DeviceKind`.  The column behind it is text and the cast to the union type
is unchecked, so any other text can arrive too. -/
inductive DeviceKind where
  | cpu
  | cuda
  | metal
  | other (text : String)
  deriving DecidableEq, Repr

/-- `MemoryPressure`, with the same unchecked cast. -/
inductive MemoryPressure where
  | normal
  | warn
  | critical
  | other (text : String)
  deriving DecidableEq, Repr

structure MemoryInput where
  kind : DeviceKind
  totalBytes : ℚ
  usedBytes : ℚ
  managedBytes : ℚ
  wiredLimitBytes : Option ℚ
  pressure : Option MemoryPressure
  interactive : Option Bool

structure MemoryBudget where
  totalBytes : ℚ
  managedBytes : ℚ
  foreignBytes : ℚ
  headroomBytes : ℚ
  availableBytes : ℚ
  schedulable : Bool

/-! ## The constants

Each fraction is the double that its literal denotes. -/

def HEADROOM_FRAC : ℚ := nearest (8 / 100)

def HEADROOM_MIN_BYTES : ℤ := 512 * 1024 ^ 2

def OS_RESERVE_FRAC : ℚ := nearest (15 / 100)

def OS_RESERVE_MIN_BYTES : ℤ := 8 * 1024 ^ 3

def INTERACTIVE_RESERVE_FRAC : ℚ := nearest (30 / 100)

def METAL_DEFAULT_CEILING_FRAC : ℚ := nearest (75 / 100)

/-! ## The computation -/

def clamp (v lo hi : ℚ) : ℚ := min (max v lo) hi

/-- `Math.floor(totalBytes * frac)`. -/
def floorOf (totalBytes frac : ℚ) : ℤ := ⌊mul totalBytes frac⌋

def reserveFrac (interactive : Option Bool) : ℚ :=
  if interactive.getD false then INTERACTIVE_RESERVE_FRAC else OS_RESERVE_FRAC

/-- The memory left to the operating system on a shared-memory device. -/
def osReserve (totalBytes : ℚ) (interactive : Option Bool) : ℤ :=
  max OS_RESERVE_MIN_BYTES (floorOf totalBytes (reserveFrac interactive))

/-- The wired limit, when one is reported, and Apple's practical ceiling otherwise. -/
def wiredLimit (totalBytes : ℚ) (wiredLimitBytes : Option ℚ) : ℚ :=
  match wiredLimitBytes with
  | some limit => if 0 < limit then limit else floorOf totalBytes METAL_DEFAULT_CEILING_FRAC
  | none => floorOf totalBytes METAL_DEFAULT_CEILING_FRAC

/-- The `switch (kind)`: the headroom and the ceiling, or the error for a kind
it does not know. -/
def headroomAndCeiling (input : MemoryInput) : Except String (ℚ × ℚ) :=
  match input.kind with
  | .cuda =>
      .ok (max HEADROOM_MIN_BYTES (floorOf input.totalBytes HEADROOM_FRAC), input.totalBytes)
  | .metal =>
      .ok (0, min (wiredLimit input.totalBytes input.wiredLimitBytes)
        (sub input.totalBytes (osReserve input.totalBytes input.interactive)))
  | .cpu => .ok (osReserve input.totalBytes input.interactive, input.totalBytes)
  | .other text => .error ("unknown device kind: " ++ text)

/-- The last lines of `computeBudget`: what is left below the ceiling. -/
def budgetBelow (input : MemoryInput) (headroomBytes ceiling : ℚ) : MemoryBudget :=
  let pressure := input.pressure.getD .normal
  let foreignBytes := clamp (sub input.usedBytes input.managedBytes) 0 input.totalBytes
  let schedulable := decide (pressure = .normal)
  let raw := sub (sub (sub ceiling foreignBytes) input.managedBytes) headroomBytes
  let availableBytes := if schedulable then clamp raw 0 input.totalBytes else 0
  ⟨input.totalBytes, input.managedBytes, foreignBytes, headroomBytes, availableBytes, schedulable⟩

def computeBudget (input : MemoryInput) : Except String MemoryBudget :=
  if input.totalBytes ≤ 0 then
    .ok ⟨0, 0, 0, 0, 0, false⟩
  else
    (headroomAndCeiling input).map fun limits => budgetBelow input limits.1 limits.2

/-! ## Fractions of a device -/

/-- The kinds `computeBudget` knows. -/
def DeviceKind.Known (kind : DeviceKind) : Prop := kind = .cpu ∨ kind = .cuda ∨ kind = .metal

def MemoryPressure.Known (pressure : MemoryPressure) : Prop :=
  pressure = .normal ∨ pressure = .warn ∨ pressure = .critical

theorem nearest_frac_mem {frac : ℚ} (h0 : 0 ≤ frac) (h1 : frac ≤ 1) :
    0 ≤ nearest frac ∧ nearest frac ≤ 1 := by
  have hone : nearest 1 = 1 := by simpa using nearest_intCast (n := 1) (by norm_num)
  exact ⟨nearest_nonneg h0, hone ▸ nearest_mono h1⟩

/-- A fraction of a device, rounded down, lies between nothing and the device. -/
theorem floorOf_mem {total : ℕ} (htotal : total < 2 ^ 53) {frac : ℚ} (h0 : 0 ≤ frac)
    (h1 : frac ≤ 1) : 0 ≤ floorOf total frac ∧ floorOf total frac ≤ total := by
  have hself : nearest (total : ℚ) = total := by
    have habs : |(total : ℤ)| ≤ 2 ^ 53 := by rw [abs_of_nonneg (by positivity)]; exact_mod_cast htotal.le
    simpa using nearest_intCast habs
  constructor
  · exact Int.floor_nonneg.2 (nearest_nonneg (mul_nonneg (by positivity) h0))
  · have hle : Binary64.mul total frac ≤ total := by
      calc nearest (total * frac) ≤ nearest total := nearest_mono (mul_le_of_le_one_right (by positivity) h1)
        _ = total := hself
    have hfloor := Int.floor_le_floor hle
    rwa [Int.floor_natCast] at hfloor

theorem reserveFrac_mem (interactive : Option Bool) :
    0 ≤ reserveFrac interactive ∧ reserveFrac interactive ≤ 1 := by
  unfold reserveFrac INTERACTIVE_RESERVE_FRAC OS_RESERVE_FRAC
  split
  · exact nearest_frac_mem (by norm_num) (by norm_num)
  · exact nearest_frac_mem (by norm_num) (by norm_num)

theorem osReserve_mem {total : ℕ} (htotal : total < 2 ^ 53) (interactive : Option Bool) :
    0 ≤ osReserve total interactive ∧ osReserve total interactive ≤ 2 ^ 53 := by
  obtain ⟨h0, h1⟩ := reserveFrac_mem interactive
  have hfloor := floorOf_mem htotal h0 h1
  unfold osReserve OS_RESERVE_MIN_BYTES
  omega

/-! ## The two clamps collapse -/

/-- Whatever is subtracted from the ceiling, the availability is the exact
difference clamped at zero.  A positive difference is reached through exactly
representable integers only; a rounded intermediate value can only be negative. -/
theorem clamp_sub_sub_sub {ceiling foreign managed headroom total : ℤ}
    (hforeign : 0 ≤ foreign) (hmanaged : 0 ≤ managed) (hheadroom : 0 ≤ headroom)
    (hheadroom' : headroom ≤ 2 ^ 53) (hceiling : ceiling ≤ total) (htotal : total ≤ 2 ^ 53)
    (htotal' : 0 ≤ total) (hfirst : -2 ^ 53 ≤ ceiling - foreign) :
    clamp (sub (sub (sub ceiling foreign) managed) headroom) 0 total =
      ((max 0 (ceiling - foreign - managed - headroom) : ℤ) : ℚ) := by
  have hexact : sub (ceiling : ℚ) foreign = ((ceiling - foreign : ℤ) : ℚ) :=
    sub_intCast (abs_le.2 ⟨hfirst, by omega⟩)
  rw [hexact]
  by_cases hpos : 0 < ceiling - foreign - managed - headroom
  · rw [sub_intCast (abs_le.2 ⟨by omega, by omega⟩), sub_intCast (abs_le.2 ⟨by omega, by omega⟩),
      max_eq_right hpos.le]
    unfold clamp
    have hle : ceiling - foreign - managed - headroom ≤ total := by omega
    rw [max_eq_left (by exact_mod_cast hpos.le), min_eq_left (by exact_mod_cast hle)]
  · have hself : nearest (headroom : ℚ) = headroom :=
      nearest_intCast (by rw [abs_of_nonneg hheadroom]; exact hheadroom')
    have hmiddle : sub ((ceiling - foreign : ℤ) : ℚ) managed ≤ headroom := by
      rw [← hself]
      exact nearest_mono (by exact_mod_cast (by omega : ceiling - foreign - managed ≤ headroom))
    have hraw : sub (sub ((ceiling - foreign : ℤ) : ℚ) managed) headroom ≤ 0 := by
      have := nearest_mono (sub_nonpos.2 hmiddle)
      rwa [nearest_zero] at this
    rw [max_eq_left (by omega)]
    unfold clamp
    rw [max_eq_right hraw, min_eq_left (by exact_mod_cast htotal')]
    norm_num

/-- Clamping the foreign memory loses nothing that the outer clamp keeps. -/
theorem max_foreign {ceiling used managed headroom total : ℤ} (hceiling : ceiling ≤ total)
    (hheadroom : 0 ≤ headroom) (hmanaged : 0 ≤ managed) (htotal : 0 ≤ total) :
    max 0 (ceiling - min (max (used - managed) 0) total - managed - headroom) =
      max 0 (ceiling - max used managed - headroom) := by
  omega

/-! ## The budget of a device with whole byte counts -/

/-- The input for whole byte counts. -/
def wholeInput (kind : DeviceKind) (total used managed : ℕ) (wired : Option ℕ)
    (interactive : Option Bool) (pressure : Option MemoryPressure) : MemoryInput :=
  ⟨kind, total, used, managed, wired.map (Nat.cast : ℕ → ℚ), pressure, interactive⟩

/-- What is kept free on the device. -/
def headroomOf (kind : DeviceKind) (total : ℕ) (interactive : Option Bool) : ℤ :=
  match kind with
  | .cuda => max HEADROOM_MIN_BYTES (floorOf total HEADROOM_FRAC)
  | .cpu => osReserve total interactive
  | .metal => 0
  | .other _ => 0

/-- The wired limit if it is positive, otherwise three quarters of the device. -/
def wiredOrDefault (total : ℕ) (wired : Option ℕ) : ℤ :=
  match wired with
  | some limit => if 0 < limit then limit else floorOf total METAL_DEFAULT_CEILING_FRAC
  | none => floorOf total METAL_DEFAULT_CEILING_FRAC

/-- What may be used of the device at all. -/
def ceilingOf (kind : DeviceKind) (total : ℕ) (wired : Option ℕ) (interactive : Option Bool) : ℤ :=
  match kind with
  | .metal => min (wiredOrDefault total wired) (total - osReserve total interactive)
  | _ => total

theorem headroomOf_mem {total : ℕ} (htotal : total < 2 ^ 53) (kind : DeviceKind)
    (interactive : Option Bool) :
    0 ≤ headroomOf kind total interactive ∧ headroomOf kind total interactive ≤ 2 ^ 53 := by
  cases kind with
  | cuda =>
      obtain ⟨h0, h1⟩ := nearest_frac_mem (show (0 : ℚ) ≤ 8 / 100 by norm_num) (by norm_num)
      have hfloor := floorOf_mem htotal h0 h1
      simp only [headroomOf, HEADROOM_MIN_BYTES, HEADROOM_FRAC]
      omega
  | cpu => exact osReserve_mem htotal interactive
  | metal => simp [headroomOf]
  | other text => simp [headroomOf]

theorem ceilingOf_mem {total : ℕ} (htotal : total < 2 ^ 53) (kind : DeviceKind)
    (wired : Option ℕ) (interactive : Option Bool) :
    ceilingOf kind total wired interactive ≤ total ∧
      (total : ℤ) - 2 ^ 53 ≤ ceilingOf kind total wired interactive := by
  cases kind with
  | metal =>
      obtain ⟨hreserve, hreserve'⟩ := osReserve_mem htotal interactive
      have hwired : 0 ≤ wiredOrDefault total wired := by
        obtain ⟨h0, h1⟩ := nearest_frac_mem (show (0 : ℚ) ≤ 75 / 100 by norm_num) (by norm_num)
        have hfloor := floorOf_mem htotal h0 h1
        unfold wiredOrDefault METAL_DEFAULT_CEILING_FRAC
        split
        · split <;> omega
        · exact hfloor.1
      simp only [ceilingOf]
      omega
  | cpu => simp only [ceilingOf]; omega
  | cuda => simp only [ceilingOf]; omega
  | other text => simp only [ceilingOf]; omega

theorem headroomAndCeiling_whole {kind : DeviceKind} (hkind : kind.Known) {total : ℕ}
    (htotal : total < 2 ^ 53) (used managed : ℕ) (wired : Option ℕ) (interactive : Option Bool)
    (pressure : Option MemoryPressure) :
    headroomAndCeiling (wholeInput kind total used managed wired interactive pressure) =
      .ok ((headroomOf kind total interactive : ℚ), (ceilingOf kind total wired interactive : ℚ)) := by
  rcases hkind with rfl | rfl | rfl
  · simp [headroomAndCeiling, wholeInput, headroomOf, ceilingOf]
  · simp [headroomAndCeiling, wholeInput, headroomOf, ceilingOf]
  · have hwired : wiredLimit total (wired.map (Nat.cast : ℕ → ℚ)) =
        (wiredOrDefault total wired : ℚ) := by
      cases wired with
      | none => rfl
      | some limit =>
          simp only [Option.map_some, wiredLimit, wiredOrDefault, Nat.cast_pos]
          split <;> simp
    have hsub : sub (total : ℚ) (osReserve total interactive) =
        (((total : ℤ) - osReserve total interactive : ℤ) : ℚ) := by
      obtain ⟨hreserve, hreserve'⟩ := osReserve_mem htotal interactive
      simpa using sub_intCast (m := total) (n := osReserve total interactive)
        (abs_le.2 ⟨by omega, by omega⟩)
    simp only [headroomAndCeiling, wholeInput, headroomOf, ceilingOf, hwired, hsub]
    push_cast
    rfl

/-- On whole byte counts both clamps collapse to one formula. -/
theorem availableBytes_eq {kind : DeviceKind} (hkind : kind.Known) {total used managed : ℕ}
    (hpos : 1 ≤ total) (htotal : total < 2 ^ 53) (hused : used < 2 ^ 53)
    (hmanaged : managed < 2 ^ 53) (wired : Option ℕ) (interactive : Option Bool)
    (pressure : Option MemoryPressure) :
    ∃ budget,
      computeBudget (wholeInput kind total used managed wired interactive pressure) = .ok budget ∧
      budget.headroomBytes = headroomOf kind total interactive ∧
      budget.availableBytes = if pressure.getD .normal = .normal then
        ((max 0 (ceilingOf kind total wired interactive - max used managed -
          headroomOf kind total interactive) : ℤ) : ℚ) else 0 := by
  obtain ⟨hheadroom, hheadroom'⟩ := headroomOf_mem htotal kind interactive
  obtain ⟨hceiling, hceiling'⟩ := ceilingOf_mem htotal kind wired interactive
  have hnot : ¬ (wholeInput kind total used managed wired interactive pressure).totalBytes ≤ 0 := by
    simp only [wholeInput, not_le]
    exact_mod_cast hpos
  have hforeign : clamp (sub (used : ℚ) managed) 0 total =
      ((min (max ((used : ℤ) - managed) 0) total : ℤ) : ℚ) := by
    have hsub : sub (used : ℚ) managed = (((used : ℤ) - managed : ℤ) : ℚ) := by
      simpa using sub_intCast (m := used) (n := managed) (abs_le.2 ⟨by omega, by omega⟩)
    rw [hsub, clamp]
    push_cast
    rfl
  refine ⟨_, by rw [computeBudget, if_neg hnot, headroomAndCeiling_whole hkind htotal]; rfl, rfl, ?_⟩
  have hclamp := @clamp_sub_sub_sub (ceilingOf kind total wired interactive)
    (min (max ((used : ℤ) - managed) 0) total) managed (headroomOf kind total interactive) total
    (by omega) (by omega) hheadroom hheadroom' hceiling (by omega) (by omega) (by omega)
  rw [max_foreign hceiling hheadroom (by omega) (by omega)] at hclamp
  by_cases hnormal : pressure.getD .normal = .normal
  · simp only [budgetBelow, wholeInput, hnormal, decide_true, if_true, hforeign]
    exact_mod_cast hclamp
  · simp [budgetBelow, wholeInput, hnormal]

/-! ## Whole numbers in, whole numbers out -/

/-- The number has no fractional part. -/
def Whole (x : ℚ) : Prop := ∃ n : ℤ, x = n

theorem Whole.intCast (n : ℤ) : Whole n := ⟨n, rfl⟩

theorem Whole.max {x y : ℚ} (hx : Whole x) (hy : Whole y) : Whole (max x y) := by
  rcases max_choice x y with hmax | hmax <;> rw [hmax] <;> assumption

theorem Whole.min {x y : ℚ} (hx : Whole x) (hy : Whole y) : Whole (min x y) := by
  rcases min_choice x y with hmin | hmin <;> rw [hmin] <;> assumption

theorem Whole.sub {x y : ℚ} (hx : Whole x) (hy : Whole y) : Whole (Binary64.sub x y) :=
  sub_isInt hx hy

theorem Whole.zero : Whole 0 := ⟨0, rfl⟩

theorem Whole.clamp {v lo hi : ℚ} (hv : Whole v) (hlo : Whole lo) (hhi : Whole hi) :
    Whole (clamp v lo hi) :=
  (hv.max hlo).min hhi

/-- Every byte count of a budget is whole. -/
structure MemoryBudget.Whole (budget : MemoryBudget) : Prop where
  totalBytes : Core.Whole budget.totalBytes
  managedBytes : Core.Whole budget.managedBytes
  foreignBytes : Core.Whole budget.foreignBytes
  headroomBytes : Core.Whole budget.headroomBytes
  availableBytes : Core.Whole budget.availableBytes

theorem headroomAndCeiling_of_known {input : MemoryInput} (hkind : input.kind.Known)
    (htotal : Whole input.totalBytes)
    (hwired : ∀ limit, input.wiredLimitBytes = some limit → Whole limit) :
    ∃ headroom ceiling, headroomAndCeiling input = .ok (headroom, ceiling) ∧ Whole headroom ∧
      Whole ceiling := by
  unfold headroomAndCeiling
  rcases hkind with hkind | hkind | hkind <;> rw [hkind]
  · exact ⟨_, _, rfl, Whole.intCast _, htotal⟩
  · exact ⟨_, _, rfl, (Whole.intCast _).max (Whole.intCast _), htotal⟩
  · refine ⟨_, _, rfl, Whole.zero, Whole.min ?_ (htotal.sub (Whole.intCast _))⟩
    unfold wiredLimit
    split
    case h_1 limit hlimit =>
      split
      · exact hwired limit hlimit
      · exact Whole.intCast _
    case h_2 => exact Whole.intCast _

/-- On whole byte counts of any size, and a kind that it knows, `computeBudget` returns. -/
theorem computeBudget_of_known {input : MemoryInput} (hkind : input.kind.Known)
    (htotal : Whole input.totalBytes) (hused : Whole input.usedBytes)
    (hmanaged : Whole input.managedBytes)
    (hwired : ∀ limit, input.wiredLimitBytes = some limit → Whole limit) :
    ∃ budget, computeBudget input = .ok budget ∧ budget.Whole := by
  unfold computeBudget
  split
  · exact ⟨_, rfl, Whole.zero, Whole.zero, Whole.zero, Whole.zero, Whole.zero⟩
  · obtain ⟨headroom, ceiling, hlimits, hheadroom, hceiling⟩ :=
      headroomAndCeiling_of_known hkind htotal hwired
    rw [hlimits]
    have hforeign : Whole (clamp (sub input.usedBytes input.managedBytes) 0 input.totalBytes) :=
      (hused.sub hmanaged).clamp Whole.zero htotal
    refine ⟨_, rfl, htotal, hmanaged, hforeign, hheadroom, ?_⟩
    simp only [budgetBelow]
    split
    · exact (((hceiling.sub hforeign).sub hmanaged).sub hheadroom).clamp Whole.zero htotal
    · exact Whole.zero

/-! ## The budget never over-commits a device -/

/-- The available bytes in closed form; hence they never over-commit the
device, and granting some of them lowers them by exactly the grant. -/
theorem computeBudget_availableBytes {kind : DeviceKind} (hkind : kind.Known)
    {total used managed : ℕ} (hpos : 1 ≤ total) (htotal : total < 2 ^ 53) (hused : used < 2 ^ 53)
    (hmanaged : managed < 2 ^ 53) (wired : Option ℕ) (interactive : Option Bool)
    (pressure : Option MemoryPressure) :
    ∃ budget,
      computeBudget (wholeInput kind total used managed wired interactive pressure) = .ok budget ∧
      (pressure.getD .normal = .normal → budget.availableBytes =
        max 0 (ceilingOf kind total wired interactive - max used managed - budget.headroomBytes)) ∧
      (pressure.getD .normal ≠ .normal → budget.availableBytes = 0) ∧
      (0 < budget.availableBytes →
        max used managed + budget.availableBytes + budget.headroomBytes =
            ceilingOf kind total wired interactive ∧
          ceilingOf kind total wired interactive ≤ total) ∧
      ∀ grant : ℕ, grant ≤ budget.availableBytes →
        ∃ granted,
          computeBudget (wholeInput kind total (used + grant) (managed + grant) wired interactive
            pressure) = .ok granted ∧
          granted.availableBytes = budget.availableBytes - grant := by
  obtain ⟨budget, hbudget, hheadroom, havailable⟩ :=
    availableBytes_eq hkind hpos htotal hused hmanaged wired interactive pressure
  have hceiling := (ceilingOf_mem htotal kind wired interactive).1
  have hkept := (headroomOf_mem htotal kind interactive).1
  refine ⟨budget, hbudget, fun hnormal => ?_, fun hpressure => ?_, fun havail => ?_,
    fun grant hgrant => ?_⟩
  · rw [havailable, if_pos hnormal, hheadroom]
    push_cast
    rfl
  · rw [havailable, if_neg hpressure]
  · refine ⟨?_, hceiling⟩
    rw [havailable] at havail ⊢
    split at havail
    case isFalse => exact absurd havail (lt_irrefl 0)
    case isTrue hnormal =>
      have hpositive := (lt_max_iff.1 (Int.cast_pos.1 havail)).resolve_left (lt_irrefl 0)
      rw [if_pos hnormal, hheadroom, max_eq_right hpositive.le]
      push_cast
      ring
  · by_cases hnormal : pressure.getD .normal = .normal
    · rw [havailable, if_pos hnormal] at hgrant ⊢
      have hfits : (grant : ℤ) ≤ max 0 (ceilingOf kind total wired interactive -
          max (used : ℤ) managed - headroomOf kind total interactive) := by exact_mod_cast hgrant
      obtain ⟨granted, hgranted, -, hvalue⟩ := availableBytes_eq hkind hpos htotal
        (show used + grant < 2 ^ 53 by omega) (show managed + grant < 2 ^ 53 by omega)
        wired interactive pressure
      refine ⟨granted, hgranted, ?_⟩
      rw [hvalue, if_pos hnormal, ← Int.cast_natCast grant, ← Int.cast_sub]
      congr 1
      push_cast
      omega
    · rw [havailable, if_neg hnormal] at hgrant ⊢
      have hzero : grant = 0 := by exact_mod_cast le_antisymm hgrant (by positivity)
      subst hzero
      exact ⟨budget, by simpa using hbudget, by rw [havailable, if_neg hnormal]; simp⟩

/-- A 24 GiB card with 10 GiB in use, 6 GiB of it ours; the headroom is 8 %. -/
theorem computeBudget_availableBytes_cuda :
    ∃ budget,
      computeBudget (wholeInput .cuda 25769803776 10737418240 6442450944 none none none) =
        .ok budget ∧
      budget.availableBytes = max 0 (25769803776 - 10737418240 - 2061584302) := by
  obtain ⟨budget, hbudget, hnormal, -⟩ := @computeBudget_availableBytes .cuda (Or.inr (Or.inl rfl))
    25769803776 10737418240 6442450944 (by norm_num) (by norm_num) (by norm_num) (by norm_num)
    none none none
  have hheadroom : (computeBudget (wholeInput .cuda 25769803776 10737418240 6442450944
      none none none)).toOption.map MemoryBudget.headroomBytes = some 2061584302 := by
    decide +kernel
  rw [hbudget] at hheadroom
  refine ⟨budget, hbudget, ?_⟩
  rw [hnormal rfl, Option.some.inj hheadroom]
  norm_num [ceilingOf]

end ModelHub.Core
