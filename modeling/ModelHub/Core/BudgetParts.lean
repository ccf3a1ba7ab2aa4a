import ModelHub.Core.BudgetOrder

/-!
# What the parts of a budget add up to

A device is drawn as what is managed, what others use, the headroom and what is
available.  Where our own accounting is within what the driver reports, and that within
the device, the first two are what is used.  The headroom is the same whatever is in
use, so that on a device that is nearly full, or smaller than the smallest headroom, the
parts add up to more than the device (`partsOf_le_iff`).  On a Metal device the headroom
is zero and they never do.
-/

namespace ModelHub.Core

open Binary64

/-- What is left below the ceiling, under normal pressure. -/
def availableOf (kind : DeviceKind) (total used : ℕ) (wired : Option ℕ) (interactive : Option Bool)
    (pressure : Option MemoryPressure) : ℤ :=
  if pressure.getD .normal = .normal then max 0 (roomOf kind total wired interactive - used) else 0

theorem computeBudget_parts {kind : DeviceKind} (hkind : kind.Known) {total used managed : ℕ}
    (hpos : 1 ≤ total) (htotal : total < 2 ^ 53) (hused : used ≤ total) (hmanaged : managed ≤ used)
    (wired : Option ℕ) (interactive : Option Bool) (pressure : Option MemoryPressure) :
    computeBudget (wholeInput kind total used managed wired interactive pressure) =
      .ok ⟨total, managed, ((used - managed : ℤ) : ℚ), headroomOf kind total interactive,
        availableOf kind total used wired interactive pressure, pressure.getD .normal = .normal⟩ := by
  set input := wholeInput kind total used managed wired interactive pressure with hinput
  have hnot : ¬ input.totalBytes ≤ 0 := by
    simp only [hinput, wholeInput, not_le]
    exact_mod_cast hpos
  have hforeign : clamp (sub input.usedBytes input.managedBytes) 0 input.totalBytes =
      ((used - managed : ℤ) : ℚ) := by
    have hsub : sub (used : ℚ) managed = ((used - managed : ℤ) : ℚ) := by
      simpa using @sub_intCast used managed (abs_le.2 ⟨by omega, by omega⟩)
    have hle : ((used - managed : ℤ) : ℚ) ≤ total := by
      exact_mod_cast (by omega : (used : ℤ) - managed ≤ total)
    simp only [hinput, wholeInput]
    rw [hsub, clamp, max_eq_left (Int.cast_nonneg (by omega)), min_eq_left hle]
  have hbudget : computeBudget input = .ok (budgetBelow input (headroomOf kind total interactive)
      (ceilingOf kind total wired interactive)) := by
    rw [computeBudget, if_neg hnot, headroomAndCeiling_whole hkind htotal]
    rfl
  have havailable : (budgetBelow input (headroomOf kind total interactive)
      (ceilingOf kind total wired interactive)).availableBytes =
        availableOf kind total used wired interactive pressure := by
    obtain ⟨budget, hsome, hvalue⟩ := @computeBudget_available _ hkind total used managed htotal
      (by omega) (by omega) wired interactive pressure
    rw [Except.ok.inj (hbudget.symm.trans hsome), hvalue, availableOf,
      Nat.max_eq_left hmanaged]
    split <;> simp
  rw [hbudget, ← havailable, ← hforeign]
  rfl

theorem availableOf_nonneg {kind : DeviceKind} {total used : ℕ} {wired : Option ℕ}
    {interactive : Option Bool} {pressure : Option MemoryPressure} :
    0 ≤ availableOf kind total used wired interactive pressure := by
  unfold availableOf
  split
  · exact le_max_left _ _
  · exact le_rfl

/-- The parts in whole bytes, of a device that reports memory. -/
def partsOf (kind : DeviceKind) (total used : ℕ) (wired : Option ℕ) (interactive : Option Bool)
    (pressure : Option MemoryPressure) : ℤ :=
  used + headroomOf kind total interactive + availableOf kind total used wired interactive pressure

/-- What is available never makes the parts overflow the device, the headroom alone may. -/
theorem partsOf_le_iff {kind : DeviceKind} (hkind : kind.Known) {total used : ℕ}
    (htotal : total < 2 ^ 53) (hused : used ≤ total) (wired : Option ℕ) (interactive : Option Bool)
    (pressure : Option MemoryPressure) :
    partsOf kind total used wired interactive pressure ≤ total ↔
      kind = .metal ∨ used + headroomOf kind total interactive ≤ total := by
  have hceiling := (ceilingOf_mem htotal kind wired interactive).1
  have hheadroom := (headroomOf_mem htotal kind interactive).1
  have havailable : availableOf kind total used wired interactive pressure ≤
      max 0 (ceilingOf kind total wired interactive - headroomOf kind total interactive - used) := by
    unfold availableOf roomOf
    split
    · exact le_rfl
    · exact le_max_left _ _
  have hnonneg := @availableOf_nonneg kind total used wired interactive pressure
  unfold partsOf
  constructor
  · intro hfits
    exact Or.inr (by omega)
  · rintro (rfl | hfits)
    · have hzero : headroomOf .metal total interactive = 0 := rfl
      omega
    · omega

/-- Where the headroom takes what is not in use, nothing is available. -/
theorem availableOf_of_le {kind : DeviceKind} {total used : ℕ} (htotal : total < 2 ^ 53)
    (wired : Option ℕ) (interactive : Option Bool) (pressure : Option MemoryPressure)
    (hfull : (total : ℤ) ≤ used + headroomOf kind total interactive) :
    availableOf kind total used wired interactive pressure = 0 := by
  have hceiling := (ceilingOf_mem htotal kind wired interactive).1
  unfold availableOf roomOf
  split
  · omega
  · rfl

end ModelHub.Core
