import ModelHub.Core.Memory
import Mathlib.Algebra.Order.Group.Nat

/-!
# A larger device, a heavier load

How `availableBytes` moves with each input of `computeBudget`.  By
`computeBudget_available` the availability is

  `max 0 (roomOf - max used managed)`,  `roomOf = ceiling - headroom`,

under normal pressure and zero otherwise, so that the load enters through one
maximum and everything about the hardware is in `roomOf`.

Only one input is delicate.  A larger total raises the ceiling and the reserve
together, and the reserve is a rounded product, rounded down again.
`floorOf_succ_le` is the reason why the room never shrinks: a fraction of at
most three eighths grows by less than one and a half bytes for each byte of the
device, and a half-integer of this size is a double, so that the rounding cannot
carry the product past a second integer.
-/

namespace ModelHub.Core

open Binary64

/-! ## Fractions of a growing device -/

theorem floorOf_le_floorOf {total total' : ℕ} (htotal : total ≤ total') {frac frac' : ℚ}
    (h0 : 0 ≤ frac) (hfrac : frac ≤ frac') : floorOf total frac ≤ floorOf total' frac' := by
  have hcast : (total : ℚ) ≤ total' := by exact_mod_cast htotal
  refine Int.floor_le_floor (nearest_mono ?_)
  calc (total : ℚ) * frac ≤ total' * frac := mul_le_mul_of_nonneg_right hcast h0
    _ ≤ total' * frac' := mul_le_mul_of_nonneg_left hfrac (by positivity)

/-- One more byte of device is at most one more byte of the fraction. -/
theorem floorOf_succ_le {total : ℕ} (htotal : total + 1 < 2 ^ 53) {frac : ℚ} (h0 : 0 ≤ frac)
    (h1 : frac ≤ 3 / 8) : floorOf (total + 1 : ℕ) frac ≤ floorOf total frac + 1 := by
  have hcast : (total : ℚ) ≤ 2 ^ 53 := by exact_mod_cast (by omega : total ≤ 2 ^ 53)
  set whole := floorOf total frac with hwhole
  have hwhole0 : 0 ≤ whole := Int.floor_nonneg.2 (nearest_nonneg (mul_nonneg (by positivity) h0))
  have hsmall : whole ≤ 2 ^ 52 - 4 := by
    have hself : nearest ((2 ^ 52 - 4 : ℤ) : ℚ) = ((2 ^ 52 - 4 : ℤ) : ℚ) :=
      nearest_intCast (by norm_num)
    have hbound : nearest (total * frac) ≤ ((2 ^ 52 - 4 : ℤ) : ℚ) := by
      rw [← hself]
      refine nearest_mono ?_
      calc (total : ℚ) * frac ≤ 2 ^ 53 * (3 / 8) := mul_le_mul hcast h1 h0 (by positivity)
        _ ≤ ((2 ^ 52 - 4 : ℤ) : ℚ) := by norm_num
    exact Int.cast_le.1 ((Int.floor_le (mul (total : ℚ) frac)).trans hbound)
  -- before the rounding the product was below the same integer
  have hbelow : (total : ℚ) * frac < ((whole + 1 : ℤ) : ℚ) := by
    by_contra hge
    have hself : nearest ((whole + 1 : ℤ) : ℚ) = ((whole + 1 : ℤ) : ℚ) :=
      nearest_intCast (abs_le.2 ⟨by omega, by omega⟩)
    have hround := nearest_mono (not_lt.1 hge)
    rw [hself] at hround
    have hfloor : mul (total : ℚ) frac < ((whole + 1 : ℤ) : ℚ) := by
      push_cast
      exact Int.lt_floor_add_one _
    exact absurd hround (not_le.2 hfloor)
  have hhalf : nearest (((2 * whole + 3 : ℤ) : ℚ) * 2 ^ (-1 : ℤ)) =
      ((2 * whole + 3 : ℤ) : ℚ) * 2 ^ (-1 : ℤ) :=
    nearest_eq_self (abs_le.2 ⟨by omega, by omega⟩) (by norm_num)
  have hnext : mul ((total + 1 : ℕ) : ℚ) frac ≤ ((2 * whole + 3 : ℤ) : ℚ) * 2 ^ (-1 : ℤ) := by
    rw [← hhalf]
    refine nearest_mono ?_
    push_cast at hbelow ⊢
    norm_num
    linarith
  have hlt : mul ((total + 1 : ℕ) : ℚ) frac < ((whole + 2 : ℤ) : ℚ) := by
    refine hnext.trans_lt ?_
    push_cast
    norm_num
    linarith
  have hfloor := Int.floor_lt.2 hlt
  unfold floorOf
  omega

theorem floorOf_add_le {total grown : ℕ} (htotal : total + grown < 2 ^ 53) {frac : ℚ}
    (h0 : 0 ≤ frac) (h1 : frac ≤ 3 / 8) :
    floorOf (total + grown : ℕ) frac ≤ floorOf total frac + grown := by
  induction grown with
  | zero => simp
  | succ grown ih =>
      calc floorOf (total + (grown + 1) : ℕ) frac
          ≤ floorOf (total + grown : ℕ) frac + 1 := floorOf_succ_le htotal h0 h1
        _ ≤ floorOf total frac + grown + 1 := by
            have := ih (by omega)
            omega
        _ = floorOf total frac + (grown + 1 : ℕ) := by
            push_cast
            ring

/-! ## The reserve and the room -/

theorem nearest_frac_le {frac : ℚ} (hfrac : frac ≤ 3 / 8) : nearest frac ≤ 3 / 8 := by
  have hself : nearest (((3 : ℤ) : ℚ) * 2 ^ (-3 : ℤ)) = ((3 : ℤ) : ℚ) * 2 ^ (-3 : ℤ) :=
    nearest_eq_self (by norm_num) (by norm_num)
  have heq : ((3 : ℤ) : ℚ) * 2 ^ (-3 : ℤ) = 3 / 8 := by norm_num
  rw [heq] at hself
  exact hself ▸ nearest_mono hfrac

theorem reserveFrac_le (interactive : Option Bool) : reserveFrac interactive ≤ 3 / 8 := by
  unfold reserveFrac INTERACTIVE_RESERVE_FRAC OS_RESERVE_FRAC
  split
  · exact nearest_frac_le (by norm_num)
  · exact nearest_frac_le (by norm_num)

theorem reserveFrac_le_interactive {interactive : Option Bool} :
    reserveFrac interactive ≤ reserveFrac (some true) := by
  unfold reserveFrac INTERACTIVE_RESERVE_FRAC OS_RESERVE_FRAC
  split
  · exact le_rfl
  · exact nearest_mono (by norm_num)

theorem osReserve_add_le {total grown : ℕ} (htotal : total + grown < 2 ^ 53)
    (interactive : Option Bool) :
    osReserve (total + grown : ℕ) interactive ≤ osReserve total interactive + grown := by
  have hfloor := floorOf_add_le htotal (reserveFrac_mem interactive).1 (reserveFrac_le interactive)
  unfold osReserve
  omega

theorem osReserve_le_interactive (total : ℕ) (interactive : Option Bool) :
    osReserve total interactive ≤ osReserve total (some true) :=
  max_le_max_left _
    (floorOf_le_floorOf le_rfl (reserveFrac_mem interactive).1 reserveFrac_le_interactive)

/-- What the hardware leaves to a load: the ceiling without the headroom. -/
def roomOf (kind : DeviceKind) (total : ℕ) (wired : Option ℕ) (interactive : Option Bool) : ℤ :=
  ceilingOf kind total wired interactive - headroomOf kind total interactive

theorem wiredOrDefault_mono {total total' : ℕ} (htotal : total ≤ total') (wired : Option ℕ) :
    wiredOrDefault total wired ≤ wiredOrDefault total' wired := by
  have hdefault : floorOf total METAL_DEFAULT_CEILING_FRAC ≤
      floorOf total' METAL_DEFAULT_CEILING_FRAC :=
    floorOf_le_floorOf htotal (nearest_nonneg (by norm_num)) le_rfl
  unfold wiredOrDefault
  split
  · split
    · exact le_rfl
    · exact hdefault
  · exact hdefault

/-- A larger device has more room, across every floor and every switch point. -/
theorem roomOf_mono_total {kind : DeviceKind} {total total' : ℕ} (htotal : total ≤ total')
    (htotal' : total' < 2 ^ 53) (wired : Option ℕ) (interactive : Option Bool) :
    roomOf kind total wired interactive ≤ roomOf kind total' wired interactive := by
  obtain ⟨grown, rfl⟩ := Nat.exists_eq_add_of_le htotal
  have hreserve := osReserve_add_le htotal' interactive
  have hheadroom : floorOf (total + grown : ℕ) HEADROOM_FRAC ≤ floorOf total HEADROOM_FRAC + grown :=
    floorOf_add_le htotal' (nearest_nonneg (by norm_num)) (nearest_frac_le (by norm_num))
  have hwired := wiredOrDefault_mono htotal wired
  cases kind with
  | cuda => simp only [roomOf, ceilingOf, headroomOf]; omega
  | cpu => simp only [roomOf, ceilingOf, headroomOf]; omega
  | metal => simp only [roomOf, ceilingOf, headroomOf]; omega
  | other text => simp only [roomOf, ceilingOf, headroomOf]; omega

theorem roomOf_mono_wired (kind : DeviceKind) (total : ℕ) {limit limit' : ℕ} (hpos : 0 < limit)
    (hlimit : limit ≤ limit') (interactive : Option Bool) :
    roomOf kind total (some limit) interactive ≤ roomOf kind total (some limit') interactive := by
  have hwired : wiredOrDefault total (some limit) ≤ wiredOrDefault total (some limit') := by
    simp only [wiredOrDefault, if_pos hpos, if_pos (hpos.trans_le hlimit)]
    exact_mod_cast hlimit
  unfold roomOf ceilingOf
  split <;> omega

theorem roomOf_interactive_le (kind : DeviceKind) (total : ℕ) (wired : Option ℕ)
    (interactive : Option Bool) :
    roomOf kind total wired (some true) ≤ roomOf kind total wired interactive := by
  have hreserve := osReserve_le_interactive total interactive
  cases kind with
  | cuda => simp only [roomOf, ceilingOf, headroomOf]; omega
  | cpu => simp only [roomOf, ceilingOf, headroomOf]; omega
  | metal => simp only [roomOf, ceilingOf, headroomOf]; omega
  | other text => simp only [roomOf, ceilingOf, headroomOf]; omega

/-! ## The availability of every device -/

theorem roomOf_zero_nonpos (kind : DeviceKind) (wired : Option ℕ) (interactive : Option Bool) :
    roomOf kind 0 wired interactive ≤ 0 := by
  have hheadroom := (@headroomOf_mem 0 (by norm_num) kind interactive).1
  have hceiling := (@ceilingOf_mem 0 (by norm_num) kind wired interactive).1
  simp only [roomOf]
  omega

/-- The closed form, which also holds of a device that reports no memory. -/
theorem computeBudget_available {kind : DeviceKind} (hkind : kind.Known) {total used managed : ℕ}
    (htotal : total < 2 ^ 53) (hused : used < 2 ^ 53) (hmanaged : managed < 2 ^ 53)
    (wired : Option ℕ) (interactive : Option Bool) (pressure : Option MemoryPressure) :
    ∃ budget,
      computeBudget (wholeInput kind total used managed wired interactive pressure) = .ok budget ∧
      budget.availableBytes = if pressure.getD .normal = .normal then
        ((max 0 (roomOf kind total wired interactive - max used managed) : ℤ) : ℚ) else 0 := by
  rcases Nat.eq_zero_or_pos total with rfl | hpos
  · refine ⟨⟨0, 0, 0, 0, 0, false⟩, by simp [computeBudget, wholeInput], ?_⟩
    have hroom := roomOf_zero_nonpos kind wired interactive
    rw [max_eq_left (by omega)]
    simp
  · obtain ⟨budget, hbudget, -, havailable⟩ :=
      availableBytes_eq hkind hpos htotal hused hmanaged wired interactive pressure
    refine ⟨budget, hbudget, ?_⟩
    rw [havailable, roomOf, sub_right_comm]

/-- Both inputs have a budget, and the first leaves no more available. -/
def NoMoreAvailable (input input' : MemoryInput) : Prop :=
  ∃ budget budget', computeBudget input = .ok budget ∧ computeBudget input' = .ok budget' ∧
    budget.availableBytes ≤ budget'.availableBytes

/-- More room and no more load leave no less available. -/
theorem noMoreAvailable {kind : DeviceKind} (hkind : kind.Known)
    {total used managed total' used' managed' : ℕ} {wired wired' : Option ℕ}
    {interactive interactive' : Option Bool} {pressure : Option MemoryPressure}
    (htotal : total < 2 ^ 53) (hused : used < 2 ^ 53) (hmanaged : managed < 2 ^ 53)
    (htotal' : total' < 2 ^ 53) (hused' : used' ≤ used) (hmanaged' : managed' ≤ managed)
    (hroom : roomOf kind total wired interactive ≤ roomOf kind total' wired' interactive') :
    NoMoreAvailable (wholeInput kind total used managed wired interactive pressure)
      (wholeInput kind total' used' managed' wired' interactive' pressure) := by
  obtain ⟨budget, hbudget, havailable⟩ :=
    computeBudget_available hkind htotal hused hmanaged wired interactive pressure
  obtain ⟨budget', hbudget', havailable'⟩ := computeBudget_available hkind htotal'
    (hused'.trans_lt hused) (hmanaged'.trans_lt hmanaged) wired' interactive' pressure
  refine ⟨budget, budget', hbudget, hbudget', ?_⟩
  rw [havailable, havailable']
  split
  · exact Int.cast_le.2 (by omega)
  · exact le_rfl

/-- Under any pressure other than the normal one nothing is available. -/
theorem noMoreAvailable_of_pressure {kind : DeviceKind} (hkind : kind.Known)
    {total used managed : ℕ} {wired : Option ℕ} {interactive : Option Bool}
    {pressure normal : Option MemoryPressure} (htotal : total < 2 ^ 53) (hused : used < 2 ^ 53)
    (hmanaged : managed < 2 ^ 53) (hpressure : pressure.getD .normal ≠ .normal)
    (hnormal : normal.getD .normal = .normal) :
    NoMoreAvailable (wholeInput kind total used managed wired interactive pressure)
      (wholeInput kind total used managed wired interactive normal) := by
  obtain ⟨budget, hbudget, havailable⟩ :=
    computeBudget_available hkind htotal hused hmanaged wired interactive pressure
  obtain ⟨budget', hbudget', havailable'⟩ :=
    computeBudget_available hkind htotal hused hmanaged wired interactive normal
  refine ⟨budget, budget', hbudget, hbudget', ?_⟩
  rw [havailable, havailable', if_neg hpressure, if_pos hnormal]
  exact_mod_cast le_max_left 0 _

/-- The availability follows the hardware upwards and the load downwards. -/
theorem computeBudget_available_monotone {kind : DeviceKind} (hkind : kind.Known)
    {total used managed : ℕ} {wired : Option ℕ} {interactive : Option Bool}
    {pressure : Option MemoryPressure} (htotal : total < 2 ^ 53) (hused : used < 2 ^ 53)
    (hmanaged : managed < 2 ^ 53) :
    (∀ total', total ≤ total' → total' < 2 ^ 53 →
      NoMoreAvailable (wholeInput kind total used managed wired interactive pressure)
        (wholeInput kind total' used managed wired interactive pressure)) ∧
    (∀ limit limit', 0 < limit → limit ≤ limit' → limit' < 2 ^ 53 →
      NoMoreAvailable (wholeInput kind total used managed (some limit) interactive pressure)
        (wholeInput kind total used managed (some limit') interactive pressure)) ∧
    (∀ used', used ≤ used' → used' < 2 ^ 53 →
      NoMoreAvailable (wholeInput kind total used' managed wired interactive pressure)
        (wholeInput kind total used managed wired interactive pressure)) ∧
    (∀ managed', managed ≤ managed' → managed' < 2 ^ 53 →
      NoMoreAvailable (wholeInput kind total used managed' wired interactive pressure)
        (wholeInput kind total used managed wired interactive pressure)) ∧
    NoMoreAvailable (wholeInput kind total used managed wired (some true) pressure)
      (wholeInput kind total used managed wired interactive pressure) ∧
    (∀ raised, pressure.getD .normal = .normal → raised ≠ .normal →
      NoMoreAvailable (wholeInput kind total used managed wired interactive (some raised))
        (wholeInput kind total used managed wired interactive pressure)) := by
  refine ⟨fun total' hgrows hbound => ?_, fun limit limit' hpos hgrows hbound => ?_,
    fun used' hgrows hbound => ?_, fun managed' hgrows hbound => ?_, ?_,
    fun raised hnormal hraised => ?_⟩
  · exact noMoreAvailable hkind htotal hused hmanaged hbound le_rfl le_rfl
      (roomOf_mono_total hgrows hbound wired interactive)
  · exact noMoreAvailable hkind htotal hused hmanaged htotal le_rfl le_rfl
      (roomOf_mono_wired kind total hpos hgrows interactive)
  · exact noMoreAvailable hkind htotal hbound hmanaged htotal hgrows le_rfl le_rfl
  · exact noMoreAvailable hkind htotal hused hbound htotal le_rfl hgrows le_rfl
  · exact noMoreAvailable hkind htotal hused hmanaged htotal le_rfl le_rfl
      (roomOf_interactive_le kind total wired interactive)
  · exact noMoreAvailable_of_pressure hkind htotal hused hmanaged hraised hnormal

/-- A card that is full, and the same load once it is reported to be larger. -/
theorem computeBudget_available_monotone_cuda :
    NoMoreAvailable (wholeInput .cuda 8589934592 8589934592 0 none none none)
      (wholeInput .cuda 25769803776 8589934592 0 none none none) :=
  (computeBudget_available_monotone (Or.inr (Or.inl rfl)) (by norm_num) (by norm_num)
    (by norm_num)).1 25769803776 (by norm_num) (by norm_num)

end ModelHub.Core
