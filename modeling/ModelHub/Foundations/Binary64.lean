import Mathlib.Data.Int.Log
import Mathlib.Data.Rat.Floor
import Mathlib.Algebra.Order.Floor.Ring
import Mathlib.Tactic.Linarith
import Mathlib.Tactic.Ring
import Mathlib.Tactic.Positivity
import Mathlib.Tactic.FieldSimp
import Mathlib.Tactic.NormNum

/-!
# Rounding to binary64

The finite doubles are the rationals `m * 2 ^ e` with `|m| ≤ 2 ^ 53` and
`-1074 ≤ e`; an arithmetic operation on them returns the double nearest to the
exact result, and of two equally near ones the one with an even significand.
`nearest` is this rounding on the rationals.  Overflow to an infinity is not part
of it: every number below stays under `2 ^ 1024`.

What a proof about double arithmetic needs is short: `nearest` is monotone
(`nearest_mono`) and fixes the doubles (`nearest_eq_self`), in particular the
integers up to `2 ^ 53` (`nearest_intCast`).
-/

namespace ModelHub.Binary64

/-! ## Rounding to an integer -/

/-- The nearest integer; of two equally near ones the even one. -/
def roundEven (x : ℚ) : ℤ :=
  if x - ⌊x⌋ < 1 / 2 then ⌊x⌋
  else if 1 / 2 < x - ⌊x⌋ then ⌊x⌋ + 1
  else if ⌊x⌋ % 2 = 0 then ⌊x⌋ else ⌊x⌋ + 1

@[simp] theorem roundEven_intCast (n : ℤ) : roundEven n = n := by
  simp [roundEven]

theorem roundEven_mono {x y : ℚ} (hxy : x ≤ y) : roundEven x ≤ roundEven y := by
  have hfloor : ⌊x⌋ ≤ ⌊y⌋ := Int.floor_le_floor hxy
  rcases hfloor.lt_or_eq with hlt | heq
  · have hupper : roundEven x ≤ ⌊x⌋ + 1 := by unfold roundEven; split_ifs <;> omega
    have hlower : ⌊y⌋ ≤ roundEven y := by unfold roundEven; split_ifs <;> omega
    omega
  · -- on one unit interval the choice only moves upwards with the fraction
    unfold roundEven
    rw [heq]
    split_ifs <;> first | omega | (exfalso; linarith)

theorem roundEven_neg (x : ℚ) : roundEven (-x) = -roundEven x := by
  by_cases hint : (⌊x⌋ : ℚ) = x
  · rw [← hint, ← Int.cast_neg, roundEven_intCast, roundEven_intCast]
  · have hlow : (⌊x⌋ : ℚ) < x := lt_of_le_of_ne (Int.floor_le x) hint
    have hhigh := Int.lt_floor_add_one x
    have hneg : ⌊-x⌋ = -⌊x⌋ - 1 := by
      rw [Int.floor_eq_iff]
      push_cast
      constructor <;> linarith
    unfold roundEven
    rw [hneg]
    push_cast
    split_ifs <;> first | omega | (exfalso; linarith)

/-- Rounding moves a number by half a unit at most. -/
theorem abs_roundEven_sub_le (x : ℚ) : |(roundEven x : ℚ) - x| ≤ 1 / 2 := by
  have hlow := Int.floor_le x
  have hhigh := Int.lt_floor_add_one x
  unfold roundEven
  split_ifs <;> rw [abs_le] <;> push_cast <;> constructor <;> linarith

/-! ## The grid of a number -/

/-- The exponent of the unit in the last place at the magnitude of `x`. -/
def gridExponent (x : ℚ) : ℤ := max (Int.log 2 |x| - 52) (-1074)

/-- The double nearest to `x`. -/
def nearest (x : ℚ) : ℚ := roundEven (x / 2 ^ gridExponent x) * 2 ^ gridExponent x

theorem two_zpow_pos (e : ℤ) : (0 : ℚ) < 2 ^ e := zpow_pos (by norm_num) e

theorem gridExponent_neg (x : ℚ) : gridExponent (-x) = gridExponent x := by
  simp [gridExponent]

theorem gridExponent_le {x : ℚ} (hx : x ≠ 0) {e : ℤ} (hmin : -1074 ≤ e)
    (hlt : |x| < 2 ^ (e + 53)) : gridExponent x ≤ e := by
  refine max_le ?_ hmin
  have hlog : Int.log 2 |x| < e + 53 := by
    by_contra hge
    exact absurd hlt (not_lt.2 ((Int.zpow_le_iff_le_log (by norm_num) (abs_pos.2 hx)).2
      (not_lt.1 hge)))
  omega

theorem gridExponent_mono {x y : ℚ} (hx : 0 < x) (hxy : x ≤ y) :
    gridExponent x ≤ gridExponent y := by
  unfold gridExponent
  rw [abs_of_pos hx, abs_of_pos (hx.trans_le hxy)]
  exact max_le_max_right _ (Int.sub_le_sub_right (Int.log_mono_right hx hxy) 52)

/-- A number on the grid of exponent `g` is fixed by rounding to that grid. -/
theorem roundEven_div_mul {g e : ℤ} (hle : g ≤ e) (m : ℤ) :
    (roundEven ((m : ℚ) * 2 ^ e / 2 ^ g) : ℚ) * 2 ^ g = m * 2 ^ e := by
  have hcast : (m : ℚ) * 2 ^ e / 2 ^ g = ((m * 2 ^ (e - g).toNat : ℤ) : ℚ) := by
    have hexp : (2 : ℚ) ^ e / 2 ^ g = 2 ^ (e - g).toNat := by
      rw [← zpow_sub₀ (by norm_num), ← zpow_natCast, Int.toNat_of_nonneg (by omega)]
    rw [mul_div_assoc, hexp]
    push_cast
    rfl
  rw [hcast, roundEven_intCast, ← hcast]
  exact div_mul_cancel₀ _ (two_zpow_pos g).ne'

/-! ## Rounding to a double -/

@[simp] theorem nearest_zero : nearest 0 = 0 := by
  simp [nearest, roundEven]

theorem nearest_neg (x : ℚ) : nearest (-x) = -nearest x := by
  simp [nearest, gridExponent_neg, neg_div, roundEven_neg]

theorem nearest_nonneg {x : ℚ} (hx : 0 ≤ x) : 0 ≤ nearest x := by
  have hdiv : ((0 : ℤ) : ℚ) ≤ x / 2 ^ gridExponent x := by
    simpa using div_nonneg hx (two_zpow_pos _).le
  have hround := roundEven_mono hdiv
  rw [roundEven_intCast] at hround
  exact mul_nonneg (by exact_mod_cast hround) (two_zpow_pos _).le

/-- The doubles are fixed by rounding. -/
theorem nearest_eq_self {m e : ℤ} (hm : |m| ≤ 2 ^ 53) (he : -1074 ≤ e) :
    nearest (m * 2 ^ e) = m * 2 ^ e := by
  rcases eq_or_ne m 0 with rfl | hne
  · simp
  have hne' : (m : ℚ) * 2 ^ e ≠ 0 := mul_ne_zero (by exact_mod_cast hne) (two_zpow_pos e).ne'
  have habs : |(m : ℚ) * 2 ^ e| = (|m| : ℤ) * 2 ^ e := by
    rw [abs_mul, abs_of_pos (two_zpow_pos e), Int.cast_abs]
  rcases hm.lt_or_eq with hlt | heq
  · refine roundEven_div_mul (gridExponent_le hne' he ?_) m
    rw [habs, add_comm, zpow_add₀ (by norm_num)]
    exact mul_lt_mul_of_pos_right (by exact_mod_cast hlt) (two_zpow_pos e)
  · -- the largest significand is the smallest one of the next grid
    obtain ⟨half, rfl⟩ : ∃ half, m = half * 2 := by
      rcases abs_eq (by positivity) |>.1 heq with rfl | rfl
      · exact ⟨2 ^ 52, by norm_num⟩
      · exact ⟨-2 ^ 52, by norm_num⟩
    have hshift : ((half * 2 : ℤ) : ℚ) * 2 ^ e = half * 2 ^ (e + 1) := by
      rw [zpow_add_one₀ (by norm_num)]
      push_cast
      ring
    rw [hshift] at hne' habs ⊢
    refine roundEven_div_mul (gridExponent_le hne' (by omega) ?_) half
    rw [habs, heq, show e + 1 + 53 = 53 + e + 1 by ring, zpow_add_one₀ (by norm_num),
      zpow_add₀ (by norm_num)]
    push_cast
    have := two_zpow_pos e
    linarith

theorem nearest_intCast {n : ℤ} (hn : |n| ≤ 2 ^ 53) : nearest n = n := by
  simpa using nearest_eq_self (e := 0) hn (by norm_num)

/-- A count as `Number` reads it. -/
theorem nearest_natCast {n : ℕ} (hn : n ≤ 2 ^ 53) : nearest ((n : ℤ) : ℚ) = n := by
  have habs : |(n : ℤ)| ≤ 2 ^ 53 := by
    rw [Nat.abs_cast]
    exact_mod_cast hn
  rw [nearest_intCast habs, Int.cast_natCast]

/-- From `2 ^ 53` on there are only integers among the doubles. -/
theorem nearest_intCast_isInt (n : ℤ) : ∃ m : ℤ, nearest n = m := by
  rcases le_or_gt |n| (2 ^ 53) with hsmall | hlarge
  · exact ⟨n, nearest_intCast hsmall⟩
  · have hne : (n : ℚ) ≠ 0 := by
      intro hzero
      have hzero' : n = 0 := by exact_mod_cast hzero
      rw [hzero'] at hlarge
      norm_num at hlarge
    have hpow : (2 : ℚ) ^ (53 : ℤ) ≤ |(n : ℚ)| := by exact_mod_cast hlarge.le
    have hlog : 53 ≤ Int.log 2 |(n : ℚ)| := by
      apply (Int.zpow_le_iff_le_log (by norm_num) (abs_pos.2 hne)).1
      exact_mod_cast hpow
    have hgrid : 0 ≤ gridExponent (n : ℚ) := by
      unfold gridExponent
      exact le_max_of_le_left (by omega)
    obtain ⟨exponent, hexponent⟩ := Int.eq_ofNat_of_zero_le hgrid
    refine ⟨roundEven ((n : ℚ) / 2 ^ gridExponent n) * 2 ^ exponent, ?_⟩
    unfold nearest
    rw [hexponent]
    push_cast
    rfl

private theorem nearest_mono_pos {x y : ℚ} (hx : 0 < x) (hxy : x ≤ y) : nearest x ≤ nearest y := by
  rcases (gridExponent_mono hx hxy).lt_or_eq with hlt | heq
  · -- a power of two on both grids separates the two numbers
    have hy : 0 < y := hx.trans_le hxy
    have hgrid : gridExponent y = Int.log 2 y - 52 := by
      have hmin : -1074 ≤ gridExponent x := le_max_right _ _
      unfold gridExponent at hlt hmin ⊢
      rw [abs_of_pos hy] at hlt ⊢
      rcases max_choice (Int.log 2 y - 52) (-1074) with h | h <;> omega
    have hbelow : x ≤ ((1 : ℤ) : ℚ) * 2 ^ Int.log 2 y := by
      have hlog : Int.log 2 x + 1 ≤ Int.log 2 y := by
        have hle : Int.log 2 x - 52 ≤ gridExponent x := by
          unfold gridExponent
          rw [abs_of_pos hx]
          exact le_max_left _ _
        omega
      rw [Int.cast_one, one_mul]
      exact (Int.lt_zpow_succ_log_self (by norm_num) x).le.trans
        (zpow_le_zpow_right₀ (by norm_num) hlog)
    have habove : ((1 : ℤ) : ℚ) * 2 ^ Int.log 2 y ≤ y := by
      rw [Int.cast_one, one_mul]
      exact Int.zpow_log_le_self (by norm_num) hy
    have hleft : nearest x ≤ ((1 : ℤ) : ℚ) * 2 ^ Int.log 2 y := by
      rw [← roundEven_div_mul (g := gridExponent x) (by omega) 1]
      refine mul_le_mul_of_nonneg_right ?_ (two_zpow_pos _).le
      exact_mod_cast roundEven_mono (div_le_div_of_nonneg_right hbelow (two_zpow_pos _).le)
    have hright : ((1 : ℤ) : ℚ) * 2 ^ Int.log 2 y ≤ nearest y := by
      rw [← roundEven_div_mul (g := gridExponent y) (by omega) 1]
      refine mul_le_mul_of_nonneg_right ?_ (two_zpow_pos _).le
      exact_mod_cast roundEven_mono (div_le_div_of_nonneg_right habove (two_zpow_pos _).le)
    exact hleft.trans hright
  · unfold nearest
    rw [heq]
    refine mul_le_mul_of_nonneg_right ?_ (two_zpow_pos _).le
    exact_mod_cast roundEven_mono (div_le_div_of_nonneg_right hxy (two_zpow_pos _).le)

theorem nearest_mono {x y : ℚ} (hxy : x ≤ y) : nearest x ≤ nearest y := by
  rcases lt_trichotomy x 0 with hx | rfl | hx
  · rcases le_or_gt 0 y with hy | hy
    · have hneg := nearest_nonneg (neg_nonneg.2 hx.le)
      rw [nearest_neg] at hneg
      linarith [nearest_nonneg hy]
    · have hneg := nearest_mono_pos (neg_pos.2 hy) (neg_le_neg hxy)
      rw [nearest_neg, nearest_neg] at hneg
      linarith
  · simpa using nearest_nonneg hxy
  · exact nearest_mono_pos hx hxy

/-- Below `2 ^ (e + 53)` a number lies within half of `2 ^ e` of its double. -/
theorem abs_nearest_sub_le {x : ℚ} {e : ℤ} (he : -1074 ≤ e) (hlt : |x| < 2 ^ (e + 53)) :
    |nearest x - x| ≤ 2 ^ e / 2 := by
  rcases eq_or_ne x 0 with rfl | hne
  · simpa using (half_pos (two_zpow_pos e)).le
  have hgrid := two_zpow_pos (gridExponent x)
  have hunit : nearest x - x =
      (roundEven (x / 2 ^ gridExponent x) - x / 2 ^ gridExponent x) * 2 ^ gridExponent x := by
    rw [sub_mul, div_mul_cancel₀ _ hgrid.ne']
    rfl
  calc |nearest x - x|
      = |(roundEven (x / 2 ^ gridExponent x) : ℚ) - x / 2 ^ gridExponent x| *
          2 ^ gridExponent x := by rw [hunit, abs_mul, abs_of_pos hgrid]
    _ ≤ 1 / 2 * 2 ^ gridExponent x :=
        mul_le_mul_of_nonneg_right (abs_roundEven_sub_le _) hgrid.le
    _ ≤ 1 / 2 * 2 ^ e := by
        refine mul_le_mul_of_nonneg_left ?_ (by norm_num)
        exact zpow_le_zpow_right₀ (by norm_num) (gridExponent_le hne he hlt)
    _ = 2 ^ e / 2 := by ring

/-- A bound that is exact is met before the rounding or not at all. -/
theorem abs_nearest_intCast_le {n bound : ℤ} (hbound : bound < 2 ^ 53) :
    |nearest n| ≤ bound ↔ |n| ≤ bound := by
  have hgrid : nearest ((2 ^ 53 : ℤ) : ℚ) = ((2 ^ 53 : ℤ) : ℚ) := nearest_intCast (by norm_num)
  have hlarge : (bound : ℚ) < ((2 ^ 53 : ℤ) : ℚ) := by exact_mod_cast hbound
  rcases le_or_gt |n| (2 ^ 53) with hsmall | hbig
  · rw [nearest_intCast hsmall, ← Int.cast_abs, Int.cast_le]
  · refine iff_of_false (fun hnear => ?_) (by omega)
    rcases lt_abs.1 hbig with hpos | hneg
    · have hmono : nearest ((2 ^ 53 : ℤ) : ℚ) ≤ nearest n := nearest_mono (by exact_mod_cast hpos.le)
      rw [hgrid] at hmono
      linarith [le_abs_self (nearest n)]
    · have hmono : nearest ((2 ^ 53 : ℤ) : ℚ) ≤ nearest (-n) := nearest_mono (by exact_mod_cast hneg.le)
      rw [hgrid, nearest_neg] at hmono
      linarith [neg_le_abs (nearest n)]

/-! ## Arithmetic -/

def sub (x y : ℚ) : ℚ := nearest (x - y)

def mul (x y : ℚ) : ℚ := nearest (x * y)

def div (x y : ℚ) : ℚ := nearest (x / y)

/-- Subtraction of integers is exact while the result stays within `2 ^ 53`. -/
theorem sub_intCast {m n : ℤ} (h : |m - n| ≤ 2 ^ 53) : sub m n = ((m - n : ℤ) : ℚ) := by
  rw [sub, ← Int.cast_sub, nearest_intCast h]

theorem sub_isInt {x y : ℚ} (hx : ∃ m : ℤ, x = m) (hy : ∃ n : ℤ, y = n) : ∃ k : ℤ, sub x y = k := by
  obtain ⟨m, rfl⟩ := hx
  obtain ⟨n, rfl⟩ := hy
  rw [sub, ← Int.cast_sub]
  exact nearest_intCast_isInt (m - n)

end ModelHub.Binary64
