import ModelHub.Foundations.JavaScript

/-!
# Byte counts as text

`formatBytes` of `apps/web/src/format.ts`.  The loop picks the unit by dividing the exact
count; dividing a double by 1024 rounds nothing (`scaleLoop_eq`), so the loop ends with
the count in the first unit in which it is below 1024, or in the last.  The text then
shows this value rounded to tenths.

The rounding comes after the choice.  A value within a twentieth below 1024 is shown as
`1024.0` of the unit that it has just been kept in, and `formatBytes_iff` says that
nothing else goes wrong.
-/

namespace ModelHub.Web

open Binary64 JavaScript

def UNITS : List String := ["B", "KiB", "MiB", "GiB", "TiB"]

/-- The `while` loop; `steps` units are left. -/
def scaleLoop : ℕ → ℚ → ℕ → ℚ × ℕ
  | 0, value, unit => (value, unit)
  | steps + 1, value, unit =>
      if 1024 ≤ value then scaleLoop steps (div value 1024) (unit + 1) else (value, unit)

/-- A number of tenths with one decimal. -/
def tenthsText (tenths : ℕ) : String := toString (tenths / 10) ++ "." ++ toString (tenths % 10)

/-- `value.toFixed(1)` of a number that is not negative and below 10^21. -/
def toFixed1 (value : ℚ) : String := tenthsText (mathRound (10 * value)).toNat

/-- For counts from `-2 ^ 53` on and below `10 ^ 21`.  Of a count further below zero
JavaScript prints the shortest decimal that rounds to its double, which is left out. -/
def formatBytes (bytes : ℤ) : String :=
  let value := nearest bytes
  if value < 1024 then toString ⌊value⌋ ++ " B"
  else
    let scaled := scaleLoop (UNITS.length - 1) value 0
    toFixed1 scaled.1 ++ " " ++ UNITS.getD scaled.2 ""

/-! ## The loop -/

/-- A double stays exact when it is divided by 1024. -/
theorem div_1024 {n : ℕ} (hn : n ≤ 2 ^ 53) {k : ℕ} (hk : k ≤ 100) :
    div ((n : ℚ) / 1024 ^ k) 1024 = n / 1024 ^ (k + 1) := by
  have hpow : (1024 : ℚ) ^ (k + 1) = 2 ^ (10 * (k + 1)) := by
    rw [pow_mul]
    norm_num
  have hshift : (n : ℚ) / 1024 ^ (k + 1) = ((n : ℤ) : ℚ) * 2 ^ (-(10 * (k + 1) : ℕ) : ℤ) := by
    rw [hpow, zpow_neg, zpow_natCast, Int.cast_natCast, div_eq_mul_inv]
  have hexact := @nearest_eq_self n (-(10 * (k + 1) : ℕ)) (by simpa using hn) (by push_cast; omega)
  rw [Binary64.div, div_div, ← pow_succ, hshift, hexact]

/-- The unit in which the loop leaves a count: from `k` on, the first in which it is below
1024, if there is one before the steps run out. -/
theorem scaleLoop_eq {n : ℕ} (hn : n ≤ 2 ^ 53) {steps k : ℕ} (hk : k + steps ≤ 100) :
    ∃ unit, scaleLoop steps ((n : ℚ) / 1024 ^ k) k = ((n : ℚ) / 1024 ^ unit, unit) ∧
      k ≤ unit ∧ unit ≤ k + steps ∧ (k < unit → 1024 ^ unit ≤ n) ∧
      (unit < k + steps → n < 1024 ^ (unit + 1)) := by
  have hstop : ∀ unit : ℕ, (1024 : ℚ) ≤ n / 1024 ^ unit ↔ 1024 ^ (unit + 1) ≤ n := by
    intro unit
    rw [le_div_iff₀ (by positivity), ← pow_succ']
    exact_mod_cast Iff.rfl
  induction steps generalizing k with
  | zero => exact ⟨k, rfl, le_rfl, le_rfl, by omega, by omega⟩
  | succ steps ih =>
      by_cases hlarge : (1024 : ℚ) ≤ n / 1024 ^ k
      · obtain ⟨unit, hloop, hlow, hhigh, hreached, hbelow⟩ :=
          @ih (k + 1) (by omega)
        refine ⟨unit, ?_, by omega, by omega, fun _ => ?_, fun hunit => hbelow (by omega)⟩
        · rw [scaleLoop, if_pos hlarge, div_1024 hn (by omega), hloop]
        · rcases hlow.lt_or_eq with hlt | rfl
          · exact hreached hlt
          · exact (hstop k).1 hlarge
      · refine ⟨k, by rw [scaleLoop, if_neg hlarge], le_rfl, by omega, by omega, fun _ => ?_⟩
        exact not_le.1 fun hle => hlarge ((hstop k).2 hle)

/-! ## The text -/

/-- The text shows `tenths` tenths of a unit, which counts 1024 to the power of `unit`. -/
def Shows (text : String) (tenths unit : ℕ) : Prop :=
  unit < UNITS.length ∧ text = tenthsText tenths ++ " " ++ UNITS.getD unit ""

/-- One text shows one amount. -/
theorem Shows.unique {text : String} {tenths unit tenths' unit' : ℕ}
    (hshows : Shows text tenths unit) (hshows' : Shows text tenths' unit') :
    tenths = tenths' ∧ unit = unit' := by
  obtain ⟨hunit, rfl⟩ := hshows
  obtain ⟨hunit', heq⟩ := hshows'
  have hlist : ∀ tenths unit : ℕ, (tenthsText tenths ++ " " ++ UNITS.getD unit "").toList =
      Nat.toDigits 10 (tenths / 10) ++ '.' :: (Nat.toDigits 10 (tenths % 10) ++
        ' ' :: (UNITS.getD unit "").toList) := by
    intro tenths unit
    simp only [tenthsText, String.toList_append, List.append_assoc]
    rw [show (toString (tenths / 10)).toList = Nat.toDigits 10 (tenths / 10) from Nat.toList_repr,
      show (toString (tenths % 10)).toList = Nat.toDigits 10 (tenths % 10) from Nat.toList_repr]
    rfl
  have hlists := congrArg String.toList heq
  rw [hlist, hlist] at hlists
  obtain ⟨hwhole, hrest⟩ := toDigits_append_cons_inj (by decide) hlists
  obtain ⟨htenth, hname⟩ := toDigits_append_cons_inj (by decide) hrest
  refine ⟨by omega, ?_⟩
  have hnames : ∀ unit < UNITS.length, ∀ unit' < UNITS.length,
      UNITS.getD unit "" = UNITS.getD unit' "" → unit = unit' := by decide
  exact hnames unit hunit unit' hunit' (String.toList_injective hname)

/-- What the text of a count from 1024 on shows. -/
theorem formatBytes_shows {n : ℕ} (hlow : 1024 ≤ n) (hhigh : n < 2 ^ 53) :
    ∃ unit, Shows (formatBytes n) (mathRound (10 * (n / 1024 ^ unit))).toNat unit ∧
      1 ≤ unit ∧ unit ≤ 4 ∧ 1024 ^ unit ≤ n ∧ (unit < 4 → n < 1024 ^ (unit + 1)) := by
  obtain ⟨unit, hloop, -, hunit, hreached, hbelow⟩ :=
    @scaleLoop_eq n hhigh.le (UNITS.length - 1) 0 (by decide)
  have hself : nearest ((n : ℤ) : ℚ) = n := nearest_natCast hhigh.le
  have hpos : 1 ≤ unit := by
    by_contra hzero
    obtain rfl : unit = 0 := by omega
    have := hbelow (by decide)
    omega
  have hnot : ¬ (n : ℚ) < 1024 := by
    rw [not_lt]
    exact_mod_cast hlow
  refine ⟨unit, ⟨by simpa [UNITS] using Nat.lt_succ_of_le hunit, ?_⟩, hpos, by simpa [UNITS] using hunit,
    hreached (by omega), fun hlast => hbelow (by simpa [UNITS] using hlast)⟩
  rw [pow_zero, div_one] at hloop
  simp only [formatBytes, hself, if_neg hnot, hloop, toFixed1]

/-! ## When the text shows the count in its own unit -/

/-- The text shows the count to the nearest tenth of a unit, with at least one whole unit
and less than 1024 of them unless there is no larger unit. -/
def ShownInItsUnit (n : ℕ) : Prop :=
  ∃ tenths unit : ℕ, Shows (formatBytes n) tenths unit ∧ 1 ≤ unit ∧ unit ≤ 4 ∧
    |(tenths : ℚ) / 10 * 1024 ^ unit - n| ≤ 1 / 20 * 1024 ^ unit ∧
    1 ≤ (tenths : ℚ) / 10 ∧ (unit ≠ 4 → (tenths : ℚ) / 10 < 1024)

/-- The count is within a twentieth of a unit below the next one. -/
def JustBelowNextUnit (n : ℕ) : Prop :=
  ∃ unit, 1 ≤ unit ∧ unit ≤ 3 ∧ n < 1024 ^ (unit + 1) ∧ 20 * (1024 ^ (unit + 1) - n) ≤ 1024 ^ unit

theorem abs_mathRound_sub_le (x : ℚ) : |(mathRound x : ℚ) - x| ≤ 1 / 2 := by
  have hlow := Int.floor_le (x + 1 / 2)
  have hhigh := Int.lt_floor_add_one (x + 1 / 2)
  rw [abs_le, mathRound]
  constructor <;> linarith

/-- The tenths that are shown of a count of at least one unit. -/
theorem tenths_mem {n unit : ℕ} (hreached : 1024 ^ unit ≤ n) :
    let tenths := (mathRound (10 * (n / 1024 ^ unit))).toNat
    |(tenths : ℚ) / 10 * 1024 ^ unit - n| ≤ 1 / 20 * 1024 ^ unit ∧ 1 ≤ (tenths : ℚ) / 10 ∧
      ((tenths : ℚ) / 10 < 1024 ↔ 20 * n < 20479 * 1024 ^ unit) := by
  have hpow : (0 : ℚ) < 1024 ^ unit := by positivity
  have hone : (1 : ℚ) ≤ n / 1024 ^ unit := by
    rw [le_div_iff₀ hpow, one_mul]
    exact_mod_cast hreached
  have hten : 10 ≤ mathRound (10 * (n / 1024 ^ unit)) :=
    Int.le_floor.2 (by push_cast; linarith)
  have hnat : (((mathRound (10 * (n / 1024 ^ unit))).toNat : ℕ) : ℚ) =
      mathRound (10 * (n / 1024 ^ unit)) := by
    rw [← Int.cast_natCast, Int.toNat_of_nonneg (by omega)]
  intro tenths
  have htenths : (tenths : ℚ) = mathRound (10 * (n / 1024 ^ unit)) := hnat
  have hround := abs_mathRound_sub_le (10 * (n / 1024 ^ unit))
  have hcast : (10 : ℚ) ≤ mathRound (10 * (n / 1024 ^ unit)) := by exact_mod_cast hten
  rw [htenths]
  refine ⟨?_, by linarith, ?_⟩
  · calc |(mathRound (10 * (n / 1024 ^ unit)) : ℚ) / 10 * 1024 ^ unit - n|
        = |((mathRound (10 * (n / 1024 ^ unit)) : ℚ) - 10 * (n / 1024 ^ unit)) *
            (1024 ^ unit / 10)| := by
          congr 1
          field_simp
      _ = |(mathRound (10 * (n / 1024 ^ unit)) : ℚ) - 10 * (n / 1024 ^ unit)| *
            (1024 ^ unit / 10) := by rw [abs_mul, abs_of_pos (show (0 : ℚ) < 1024 ^ unit / 10 by positivity)]
      _ ≤ 1 / 2 * (1024 ^ unit / 10) := mul_le_mul_of_nonneg_right hround (by positivity)
      _ = 1 / 20 * 1024 ^ unit := by ring
  · have hlt : mathRound (10 * (n / 1024 ^ unit)) < (10240 : ℤ) ↔
        10 * ((n : ℚ) / 1024 ^ unit) + 1 / 2 < ((10240 : ℤ) : ℚ) := Int.floor_lt
    have hscale : 10 * ((n : ℚ) / 1024 ^ unit) + 1 / 2 < ((10240 : ℤ) : ℚ) ↔
        (20 * n : ℚ) < 20479 * 1024 ^ unit := by
      rw [show 10 * ((n : ℚ) / 1024 ^ unit) = 10 * n / 1024 ^ unit by ring, ← lt_sub_iff_add_lt,
        div_lt_iff₀ hpow]
      push_cast
      constructor <;> intro h <;> linarith
    rw [div_lt_iff₀ (by norm_num), show (1024 : ℚ) * 10 = ((10240 : ℤ) : ℚ) by norm_num, Int.cast_lt,
      hlt, hscale]
    exact_mod_cast Iff.rfl

/-- The unit is the right one except just below the next. -/
theorem formatBytes_iff {n : ℕ} (hlow : 1024 ≤ n) (hhigh : n < 2 ^ 53) :
    ShownInItsUnit n ↔ ¬ JustBelowNextUnit n := by
  obtain ⟨unit, hshows, hpos, hlast, hreached, hbelow⟩ := formatBytes_shows hlow hhigh
  obtain ⟨hnear, hone, hlt⟩ := tenths_mem hreached
  constructor
  · rintro ⟨tenths, unit', hshows', -, -, -, -, hfits⟩ ⟨near, hnear1, hnear3, hnext, hclose⟩
    obtain ⟨htenths, hunit⟩ := hshows.unique hshows'
    have hnearPow : 1024 ^ (near + 1) = 1024 * 1024 ^ near := pow_succ' 1024 near
    -- both units hold the count, so they are one
    have hsame : unit = near := by
      rcases lt_trichotomy unit near with hless | heq | hmore
      · have hpow : 1024 ^ (unit + 1) ≤ 1024 ^ near := Nat.pow_le_pow_right (by norm_num) hless
        have := hbelow (by omega)
        omega
      · exact heq
      · have hpow : 1024 ^ (near + 1) ≤ 1024 ^ unit := Nat.pow_le_pow_right (by norm_num) hmore
        omega
    subst hsame
    have hbad := hlt.1 (htenths ▸ hfits (by omega))
    omega
  · intro hnot
    refine ⟨_, unit, hshows, hpos, hlast, hnear, hone, fun hfour => hlt.2 ?_⟩
    have hnext := hbelow (by omega)
    have hnextPow : 1024 ^ (unit + 1) = 1024 * 1024 ^ unit := pow_succ' 1024 unit
    by_contra hclose
    exact hnot ⟨unit, hpos, by omega, hnext, by omega⟩

/-- One byte less than a mebibyte is shown as a thousand and twenty-four kibibytes. -/
theorem formatBytes_mebibyte :
    formatBytes 1048575 = "1024.0 KiB" ∧ ¬ ShownInItsUnit 1048575 := by
  refine ⟨by decide +kernel, ?_⟩
  rintro ⟨tenths, unit, hshows, -, hlast, -, -, hfits⟩
  have hshown : Shows (formatBytes 1048575) 10240 1 := ⟨by decide, by decide +kernel⟩
  obtain ⟨rfl, rfl⟩ := hshows.unique hshown
  have := hfits (by norm_num)
  norm_num at this

/-- An exact multiple is shown in its own unit. -/
theorem formatBytes_iff_gibibytes : ShownInItsUnit 25769803776 ∧ ¬ JustBelowNextUnit 25769803776 := by
  have hnot : ¬ JustBelowNextUnit 25769803776 := by
    rintro ⟨unit, hlow, hhigh, hnext, hclose⟩
    interval_cases unit <;> omega
  exact ⟨(formatBytes_iff (by norm_num) (by norm_num)).2 hnot, hnot⟩

end ModelHub.Web
