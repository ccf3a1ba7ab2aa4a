import ModelHub.Core.BudgetParts
import ModelHub.ControlPlane.FleetSafety
import ModelHub.Web.Format

/-!
# The memory bar of a device

`DeviceMemoryBar` of `apps/web/src/components/DeviceMemoryBar.tsx`: a `DeviceView` drawn
as four segments side by side, each as wide as its share of the total in percent.

The shares are those of `partsOf`, so that they fit the bar exactly where the headroom fits
beside what is in use (`segments_fit_iff`).  Each width is rounded to hundredths of a
percent on its own.  Rounding half up adds at most half a hundredth to each of the four,
and the two roundings before it are too small to add another: segments that fit together
are at most 100.02 % wide.
-/

namespace ModelHub.Web

open Binary64 JavaScript ModelHub.Core ModelHub.ControlPlane Db

/-! ## The component -/

/-- `Math.round((Number(part) / Number(whole)) * 10_000)`, and zero of an empty whole. -/
def percentHundredths (part whole : ℤ) : ℤ :=
  if whole = 0 then 0 else mathRound (mul (div (nearest part) (nearest whole)) 10000)

/-- The text of `hundredths / 100`: the shortest decimal that is read as this double,
which are the hundredths themselves as long as they are below 10^15. -/
def hundredthsText (hundredths : ℤ) : String :=
  let digits := hundredths.natAbs
  let fraction :=
    if digits % 100 = 0 then ""
    else if digits % 10 = 0 then "." ++ toString (digits % 100 / 10)
    else "." ++ toString (digits % 100 / 10) ++ toString (digits % 10)
  (if hundredths < 0 then "-" else "") ++ toString (digits / 100) ++ fraction

def percent (part whole : ℤ) : String := hundredthsText (percentHundredths part whole) ++ "%"

/-- One entry of `SEGMENTS`, with the field that its key names. -/
structure Segment where
  key : String
  bytes : DeviceView → ℤ
  label : String
  className : String

def SEGMENTS : List Segment := [
  ⟨"managedBytes", DeviceView.managedBytes, "Model Hub", "bg-[#2a78d6]"⟩,
  ⟨"foreignBytes", DeviceView.foreignBytes, "Other processes", "bg-[#eb6834]"⟩,
  ⟨"headroomBytes", DeviceView.headroomBytes, "Reserved headroom", "bg-[#c3c2b7]"⟩,
  ⟨"availableBytes", DeviceView.availableBytes, "Available", "bg-[#1baf7a]"⟩]

def WARN : Int32 := 2

/-- A drawn segment. -/
structure DrawnSegment where
  testId : String
  dataBytes : String
  title : String
  className : String
  width : String
  deriving DecidableEq, Repr

structure DrawnBar where
  name : String
  localId : String
  segments : List DrawnSegment
  legend : List String
  summary : String
  notice : Option String
  deriving DecidableEq, Repr

def DeviceMemoryBar (device : DeviceView) : DrawnBar where
  name := device.name
  localId := device.localId
  segments := SEGMENTS.map fun segment =>
    { testId := "segment-" ++ segment.key
      dataBytes := toString (segment.bytes device)
      title := segment.label ++ ": " ++ formatBytes (segment.bytes device)
      className := segment.className
      width := percent (segment.bytes device) device.totalBytes }
  legend := SEGMENTS.map fun segment =>
    segment.label ++ " · " ++ formatBytes (segment.bytes device)
  summary := formatBytes device.availableBytes ++ " available of " ++
    formatBytes device.totalBytes ++ " total"
  notice :=
    if device.schedulable then none
    else if WARN ≤ device.pressure then
      some "Not accepting work — the machine is under memory pressure"
    else some "Not accepting work"

/-- The widths together, in hundredths of a percent. -/
def drawnHundredths (device : DeviceView) : ℤ :=
  (SEGMENTS.map fun segment => percentHundredths (segment.bytes device) device.totalBytes).sum

/-- The bar shows the widths that are added up there. -/
theorem width_segments (device : DeviceView) :
    (DeviceMemoryBar device).segments.map DrawnSegment.width =
      (SEGMENTS.map fun segment => percentHundredths (segment.bytes device) device.totalBytes).map
        fun hundredths => hundredthsText hundredths ++ "%" := by
  rw [DeviceMemoryBar, List.map_map, List.map_map]
  rfl

/-! ## Widths -/

/-- A width exceeds the exact share by half a hundredth, and by what two roundings of
doubles add. -/
theorem percentHundredths_le {part whole : ℕ} (hpart : part ≤ whole) (hwhole : whole < 2 ^ 53)
    (hpos : 0 < whole) :
    (percentHundredths part whole : ℚ) ≤ 10000 * (part / whole) + 1 / 2 + 1 / 2 ^ 38 := by
  have hshare0 : (0 : ℚ) ≤ part / whole := by positivity
  have hshare1 : (part : ℚ) / whole ≤ 1 := by
    rw [div_le_one (by exact_mod_cast hpos)]
    exact_mod_cast hpart
  have hquotient : div (part : ℚ) whole ≤ part / whole + 1 / 2 ^ 53 := by
    have hnear := @abs_nearest_sub_le (part / whole) (-52) (by norm_num)
      (by rw [abs_of_nonneg hshare0]; norm_num; linarith)
    have := (abs_le.1 hnear).2
    norm_num [Binary64.div] at this ⊢
    linarith
  have hquotient0 : 0 ≤ div (part : ℚ) whole := nearest_nonneg hshare0
  have hproduct : mul (div (part : ℚ) whole) 10000 ≤ div (part : ℚ) whole * 10000 + 1 / 2 ^ 40 := by
    have hsmall : |div (part : ℚ) whole * 10000| < 2 ^ (-39 + 53 : ℤ) := by
      rw [abs_of_nonneg (by positivity)]
      norm_num at hquotient ⊢
      linarith
    have hnear := @abs_nearest_sub_le (div (part : ℚ) whole * 10000) (-39) (by norm_num) hsmall
    have := (abs_le.1 hnear).2
    norm_num [Binary64.mul] at this ⊢
    linarith
  have hnot : ¬ (whole : ℤ) = 0 := by omega
  have hfloor := Int.floor_le (mul (div (part : ℚ) whole) 10000 + 1 / 2)
  rw [percentHundredths, if_neg hnot, @nearest_natCast part (by omega), nearest_natCast hwhole.le,
    mathRound]
  norm_num at hquotient hproduct hfloor ⊢
  linarith

/-- Four shares of one whole. -/
theorem percentHundredths_add_le {first second third fourth whole : ℕ} (hwhole : whole < 2 ^ 53)
    (hpos : 0 < whole) (hsum : first + second + third + fourth ≤ whole) :
    percentHundredths first whole + percentHundredths second whole +
      percentHundredths third whole + percentHundredths fourth whole ≤ 10002 := by
  have hwhole0 : (0 : ℚ) < whole := by exact_mod_cast hpos
  have hshares : (first : ℚ) / whole + second / whole + third / whole + fourth / whole ≤ 1 := by
    rw [← add_div, ← add_div, ← add_div, div_le_one hwhole0]
    exact_mod_cast hsum
  have h1 := @percentHundredths_le first whole (by omega) hwhole hpos
  have h2 := @percentHundredths_le second whole (by omega) hwhole hpos
  have h3 := @percentHundredths_le third whole (by omega) hwhole hpos
  have h4 := @percentHundredths_le fourth whole (by omega) hwhole hpos
  have htotal : ((percentHundredths first whole + percentHundredths second whole +
      percentHundredths third whole + percentHundredths fourth whole : ℤ) : ℚ) <
      ((10003 : ℤ) : ℚ) := by
    push_cast
    norm_num at h1 h2 h3 h4 ⊢
    linarith
  have := Int.cast_lt.1 htotal
  omega

/-! ## Shares of a device -/

/-- The wired limit enters through `wiredLimit` alone. -/
theorem computeBudget_congr_wired {input : MemoryInput} {wiredLimitBytes : Option ℚ}
    (hwired : wiredLimit input.totalBytes input.wiredLimitBytes =
      wiredLimit input.totalBytes wiredLimitBytes) :
    computeBudget input = computeBudget { input with wiredLimitBytes := wiredLimitBytes } := by
  have hlimits : headroomAndCeiling input =
      headroomAndCeiling { input with wiredLimitBytes := wiredLimitBytes } := by
    unfold headroomAndCeiling
    simp only [hwired]
  unfold computeBudget
  rw [hlimits]
  rfl

section Row

variable {device : Device} {total used managed : ℕ}

/-- A row with whole counts below `2 ^ 53`, whatever its wired limit. -/
theorem budgetInput_whole (htotal : device.facts.totalBytes = total)
    (hused : device.last.lastUsedBytes = used) (hmanaged : device.last.lastManagedBytes = managed)
    (hbound : total < 2 ^ 53) (hused' : used ≤ total) (hmanaged' : managed ≤ used) :
    ∃ wired : ℕ, computeBudget (budgetInput device) =
      computeBudget (wholeInput device.facts.kind total used managed (some wired)
        (some device.interactive) (some device.last.lastPressure)) := by
  have hinput : budgetInput device = { wholeInput device.facts.kind total used managed none
      (some device.interactive) (some device.last.lastPressure) with
        wiredLimitBytes := some (nearest device.facts.wiredLimitBytes) } := by
    unfold budgetInput wholeInput
    rw [htotal, hused, hmanaged, nearest_natCast hbound.le, @nearest_natCast used (by omega),
      @nearest_natCast managed (by omega)]
  obtain ⟨limit, hlimit⟩ := nearest_intCast_isInt device.facts.wiredLimitBytes
  refine ⟨limit.toNat, ?_⟩
  rw [hinput, hlimit]
  refine computeBudget_congr_wired ?_
  change wiredLimit (total : ℚ) (some (limit : ℚ)) = wiredLimit total (some (limit.toNat : ℚ))
  rcases lt_or_ge 0 limit with hpos | hneg
  · have hnat : ((limit.toNat : ℕ) : ℚ) = limit := by
      rw [← Int.cast_natCast, Int.toNat_of_nonneg hpos.le]
    rw [hnat]
  · have hnot : ¬ (0 : ℚ) < limit := by
      rw [not_lt]
      exact_mod_cast hneg
    simp [wiredLimit, hnot, Int.toNat_of_nonpos hneg]

/-- The segments of a row that reports memory. -/
theorem deviceView_parts (hkind : device.facts.kind.Known)
    (htotal : device.facts.totalBytes = total) (hused : device.last.lastUsedBytes = used)
    (hmanaged : device.last.lastManagedBytes = managed) (hpos : 1 ≤ total)
    (hbound : total < 2 ^ 53) (hused' : used ≤ total) (hmanaged' : managed ≤ used) :
    ∃ wired view, deviceView device = .ok view ∧ view.totalBytes = total ∧
      view.managedBytes = managed ∧ view.foreignBytes = used - managed ∧
      view.headroomBytes = headroomOf device.facts.kind total (some device.interactive) ∧
      view.availableBytes = availableOf device.facts.kind total used (some wired)
        (some device.interactive) (some device.last.lastPressure) := by
  obtain ⟨wired, hinput⟩ := budgetInput_whole htotal hused hmanaged hbound hused' hmanaged'
  have hbudget := (computeBudget_of_row hkind).1
  rw [hinput, computeBudget_parts hkind hpos hbound hused' hmanaged'] at hbudget
  refine ⟨wired, viewOf device, deviceView_eq hkind, ?_⟩
  unfold viewOf
  rw [← Except.ok.inj hbudget]
  simp only [Int.floor_intCast, Int.floor_natCast, and_self]

/-- A row that reports no memory is drawn empty. -/
theorem deviceView_empty (hkind : device.facts.kind.Known) (htotal : device.facts.totalBytes = 0) :
    ∃ view, deviceView device = .ok view ∧ view.totalBytes = 0 ∧ view.managedBytes = 0 ∧
      view.foreignBytes = 0 ∧ view.headroomBytes = 0 ∧ view.availableBytes = 0 := by
  have hbudget := (computeBudget_of_row hkind).1
  have hzero : computeBudget (budgetInput device) = .ok ⟨0, 0, 0, 0, 0, false⟩ := by
    have hle : (budgetInput device).totalBytes ≤ 0 := by simp [budgetInput, htotal]
    rw [computeBudget, if_pos hle]
  refine ⟨viewOf device, deviceView_eq hkind, ?_⟩
  unfold viewOf
  rw [← Except.ok.inj (hzero.symm.trans hbudget)]
  simp only [Int.floor_zero, and_self]

/-- The segments fit the device exactly where the headroom fits beside what is in use. -/
theorem segments_fit_iff (hkind : device.facts.kind.Known)
    (htotal : device.facts.totalBytes = total) (hused : device.last.lastUsedBytes = used)
    (hmanaged : device.last.lastManagedBytes = managed) (hbound : total < 2 ^ 53)
    (hused' : used ≤ total) (hmanaged' : managed ≤ used) :
    ∃ view, deviceView device = .ok view ∧
      (view.managedBytes + view.foreignBytes + view.headroomBytes + view.availableBytes ≤
          view.totalBytes ↔
        total = 0 ∨ device.facts.kind = .metal ∨
          used + headroomOf device.facts.kind total (some device.interactive) ≤ total) ∧
      (view.managedBytes + view.foreignBytes + view.headroomBytes + view.availableBytes ≤
          view.totalBytes →
        drawnHundredths view ≤ 10002) := by
  rcases Nat.eq_zero_or_pos total with rfl | hpos
  · obtain ⟨view, hview, htotal0, hmanaged0, hforeign0, hheadroom0, havailable0⟩ :=
      deviceView_empty hkind htotal
    refine ⟨view, hview, ?_, fun _ => ?_⟩
    · rw [htotal0, hmanaged0, hforeign0, hheadroom0, havailable0]
      simp
    · simp [drawnHundredths, SEGMENTS, percentHundredths, htotal0]
  · obtain ⟨wired, view, hview, htotal', hmanagedView, hforeignView, hheadroomView, havailableView⟩ :=
      deviceView_parts hkind htotal hused hmanaged hpos hbound hused' hmanaged'
    have hparts : view.managedBytes + view.foreignBytes + view.headroomBytes +
        view.availableBytes = partsOf device.facts.kind total used (some wired)
          (some device.interactive) (some device.last.lastPressure) := by
      rw [hmanagedView, hforeignView, hheadroomView, havailableView, partsOf]
      ring
    refine ⟨view, hview, ?_, fun hfits => ?_⟩
    · rw [hparts, htotal', partsOf_le_iff hkind hbound hused']
      exact ⟨Or.inr, fun hfits => hfits.resolve_left (by omega)⟩
    · have hheadroom := (headroomOf_mem hbound device.facts.kind (some device.interactive)).1
      have havailable : 0 ≤ view.availableBytes := by
        rw [havailableView]
        exact availableOf_nonneg
      obtain ⟨foreign, hforeign⟩ := Int.eq_ofNat_of_zero_le (show 0 ≤ view.foreignBytes by omega)
      obtain ⟨headroom, hheadroomEq⟩ :=
        Int.eq_ofNat_of_zero_le (show 0 ≤ view.headroomBytes by omega)
      obtain ⟨available, havailableEq⟩ := Int.eq_ofNat_of_zero_le havailable
      have hsum := @percentHundredths_add_le managed foreign headroom available total hbound hpos
        (by omega)
      simp only [drawnHundredths, SEGMENTS, List.map_cons, List.map_nil, List.sum_cons, List.sum_nil]
      rw [hmanagedView, hforeign, hheadroomEq, havailableEq, htotal']
      omega

end Row

/-- The row of a device without pressure. -/
def quietRow (kind : DeviceKind) (totalBytes lastUsedBytes lastManagedBytes : ℤ) : Device where
  id := 1
  orgId := "org"
  nodeId := 2
  localId := "device"
  facts :=
    { kind := kind
      index := 0
      name := "device"
      totalBytes := totalBytes
      wiredLimitBytes := 0
      driverVersion := ""
      computeCapability := "" }
  interactive := false
  last :=
    { LastSample.default with
      lastUsedBytes := lastUsedBytes
      lastManagedBytes := lastManagedBytes }
  createdAt := 0

/-- On a card of 4 GiB that is in use to a quarter everything fits. -/
theorem segments_fit_iff_busy :
    ∃ view, deviceView (quietRow .cuda 4294967296 1073741824 268435456) = .ok view ∧
      view.managedBytes + view.foreignBytes + view.headroomBytes + view.availableBytes ≤
        view.totalBytes ∧
      drawnHundredths view ≤ 10002 ∧
      (DeviceMemoryBar view).segments.map DrawnSegment.width =
        ["6.25%", "18.75%", "12.5%", "62.5%"] := by
  obtain ⟨view, hview, hiff, hwidth⟩ :=
    @segments_fit_iff (quietRow .cuda 4294967296 1073741824 268435456) 4294967296 1073741824
      268435456 (Or.inr (Or.inl rfl)) rfl rfl rfl (by norm_num) (by norm_num) (by norm_num)
  have hheadroom : headroomOf .cuda 4294967296 (some false) = 536870912 := by decide +kernel
  have hfits := hiff.2 (Or.inr (Or.inr (by
    simp only [quietRow, hheadroom]
    norm_num)))
  have hdrawn : (deviceView (quietRow .cuda 4294967296 1073741824 268435456)).map (fun view =>
      SEGMENTS.map fun segment => percentHundredths (segment.bytes view) view.totalBytes) =
      .ok [625, 1875, 1250, 6250] := by
    decide +kernel
  rw [hview] at hdrawn
  have hshares : (SEGMENTS.map fun segment =>
      percentHundredths (segment.bytes view) view.totalBytes) = [625, 1875, 1250, 6250] :=
    Except.ok.inj hdrawn
  refine ⟨view, hview, hfits, hwidth hfits, ?_⟩
  rw [width_segments, hshares]
  decide +kernel

/-- A card of 4 GiB in full use is drawn 112.5 % wide, for nothing is left for the headroom.
A Mac of 32 GiB in full use fits, and is drawn 100.01 % wide all the same. -/
theorem segments_of_full_devices :
    (∃ view, deviceView (quietRow .cuda 4294967296 4294967296 0) = .ok view ∧
      view.totalBytes <
        view.managedBytes + view.foreignBytes + view.headroomBytes + view.availableBytes ∧
      drawnHundredths view = 11250) ∧
    ∃ view, deviceView (quietRow .metal 34359738368 34359738368 1073741824) = .ok view ∧
      view.managedBytes + view.foreignBytes + view.headroomBytes + view.availableBytes =
        view.totalBytes ∧
      drawnHundredths view = 10001 := by
  constructor
  · have hheadroom : headroomOf .cuda 4294967296 (some false) = 536870912 := by decide +kernel
    obtain ⟨wired, view, hview, htotal, hmanaged, hforeign, hkept, havailable⟩ :=
      @deviceView_parts (quietRow .cuda 4294967296 4294967296 0) 4294967296 4294967296 0
        (Or.inr (Or.inl rfl)) rfl rfl rfl (by norm_num) (by norm_num) (by norm_num) (by norm_num)
    have hzero : view.availableBytes = 0 := by
      rw [havailable]
      refine availableOf_of_le (by norm_num) _ _ _ ?_
      simp only [quietRow, hheadroom]
      norm_num
    have hshare : view.headroomBytes = 536870912 := hkept.trans hheadroom
    refine ⟨view, hview, ?_, ?_⟩
    · rw [htotal, hmanaged, hforeign, hshare, hzero]
      norm_num
    · simp only [drawnHundredths, SEGMENTS, List.map_cons, List.map_nil, List.sum_cons,
        List.sum_nil, htotal, hmanaged, hforeign, hshare, hzero]
      decide +kernel
  · obtain ⟨wired, view, hview, htotal, hmanaged, hforeign, hkept, havailable⟩ :=
      @deviceView_parts (quietRow .metal 34359738368 34359738368 1073741824) 34359738368 34359738368
        1073741824 (Or.inr (Or.inr rfl)) rfl rfl rfl (by norm_num) (by norm_num) (by norm_num)
        (by norm_num)
    have hzero : view.availableBytes = 0 := by
      rw [havailable]
      exact availableOf_of_le (by norm_num) _ _ _ (by simp [quietRow, headroomOf])
    have hshare : view.headroomBytes = 0 := hkept
    refine ⟨view, hview, ?_, ?_⟩
    · rw [htotal, hmanaged, hforeign, hshare, hzero]
      norm_num
    · simp only [drawnHundredths, SEGMENTS, List.map_cons, List.map_nil, List.sum_cons,
        List.sum_nil, htotal, hmanaged, hforeign, hshare, hzero]
      decide +kernel

end ModelHub.Web
