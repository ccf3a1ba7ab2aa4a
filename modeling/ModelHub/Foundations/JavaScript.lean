import ModelHub.Foundations.Binary64
import Mathlib.Data.List.TakeWhile
import Mathlib.Tactic.IntervalCases

/-!
# Dates and numbers of JavaScript

`new Date(x)` keeps the whole milliseconds of `x`, rounding towards zero, if they
lie within 8.64e15 of the epoch, and is an invalid date otherwise.  `newDate` is
this conversion; `none` stands for the invalid date, whose use throws.

`Number(text)` reads a text as a double: decimal, or hexadecimal, octal or binary
behind `0x`, `0o` or `0b`, with white space around it.  `numberOf` is this reading;
`none` stands for the results that are not finite.
-/

namespace ModelHub.JavaScript

/-- `ToIntegerOrInfinity` of a finite number. -/
def truncate (x : ℚ) : ℤ := if 0 ≤ x then ⌊x⌋ else ⌈x⌉

/-- The largest distance of a date from the epoch. -/
def MAX_DATE : ℤ := 8640000000000000

def newDate (x : ℚ) : Option ℤ :=
  if |x| ≤ MAX_DATE then some (truncate x) else none

@[simp] theorem truncate_intCast (n : ℤ) : truncate n = n := by
  simp [truncate]

theorem truncate_mono {x y : ℚ} (hxy : x ≤ y) : truncate x ≤ truncate y := by
  unfold truncate
  split <;> split
  · exact Int.floor_le_floor hxy
  · linarith
  case isFalse.isTrue hx hy =>
    have hneg : ⌈x⌉ ≤ 0 := Int.ceil_le.2 (by push_cast; linarith)
    have hpos : 0 ≤ ⌊y⌋ := Int.le_floor.2 (by push_cast; linarith)
    omega
  · exact Int.ceil_le_ceil hxy

theorem newDate_eq_some {x : ℚ} {date : ℤ} (hdate : newDate x = some date) :
    date = truncate x := by
  unfold newDate at hdate
  split at hdate
  · exact (Option.some.inj hdate).symm
  · cases hdate

/-- `Math.round` of a finite number: the nearest integer, of two equally near ones the
larger. -/
def mathRound (x : ℚ) : ℤ := ⌊x + 1 / 2⌋

/-! ## Numbers read from a text -/

/-- The characters that `trim` and `Number` skip at both ends of a text. -/
def isWhiteSpace (c : Char) : Bool :=
  c.toNat ∈ [0x9, 0xA, 0xB, 0xC, 0xD, 0x20, 0xA0, 0x1680, 0x2028, 0x2029, 0x202F, 0x205F, 0x3000,
    0xFEFF] ∨ (0x2000 ≤ c.toNat ∧ c.toNat ≤ 0x200A)

def trim (text : List Char) : List Char :=
  ((text.dropWhile isWhiteSpace).reverse.dropWhile isWhiteSpace).reverse

/-- The value of a letter or digit as a digit; 36 for the other characters. -/
def digitValue (c : Char) : ℕ :=
  if '0' ≤ c ∧ c ≤ '9' then c.toNat - '0'.toNat
  else if 'a' ≤ c ∧ c ≤ 'z' then c.toNat - 'a'.toNat + 10
  else if 'A' ≤ c ∧ c ≤ 'Z' then c.toNat - 'A'.toNat + 10
  else 36

/-- The value of a text of one or more digits. -/
def digits (radix : ℕ) (text : List Char) : Option ℕ :=
  if text ≠ [] ∧ text.all fun c => digitValue c < radix then
    some (text.foldl (fun value c => value * radix + digitValue c) 0)
  else none

/-- A number behind an optional sign. -/
def signed {Value : Type} [Neg Value] (unsigned : List Char → Option Value) :
    List Char → Option Value
  | '+' :: text => unsigned text
  | '-' :: text => (unsigned text).map Neg.neg
  | text => unsigned text

/-- Decimal digits with an optional point, of which one side may be empty. -/
def mantissa (text : List Char) : Option ℚ :=
  match text.span (· ≠ '.') with
  | (whole, []) => (digits 10 whole).map Nat.cast
  | (whole, _ :: fraction) =>
      (digits 10 (whole ++ fraction)).map fun value => value / 10 ^ fraction.length

/-- A mantissa with an optional exponent. -/
def decimal (text : List Char) : Option ℚ :=
  match text.span fun c => c ≠ 'e' ∧ c ≠ 'E' with
  | (number, []) => mantissa number
  | (number, _ :: exponent) =>
      (mantissa number).bind fun value =>
        (signed (fun text => (digits 10 text).map Int.ofNat) exponent).map fun power =>
          value * 10 ^ power

/-- The exact value of a text. -/
def literal (text : List Char) : Option ℚ :=
  match trim text with
  | [] => some 0
  | '0' :: 'x' :: rest => (digits 16 rest).map Nat.cast
  | '0' :: 'X' :: rest => (digits 16 rest).map Nat.cast
  | '0' :: 'o' :: rest => (digits 8 rest).map Nat.cast
  | '0' :: 'O' :: rest => (digits 8 rest).map Nat.cast
  | '0' :: 'b' :: rest => (digits 2 rest).map Nat.cast
  | '0' :: 'B' :: rest => (digits 2 rest).map Nat.cast
  | text => signed decimal text

/-- `Number(text)`, if it is finite. -/
def numberOf (text : String) : Option ℚ :=
  ((literal text.toList).map Binary64.nearest).filter fun number => |number| < 2 ^ 1024

/-! ### A natural number in decimal -/

theorem isDigit_cases {c : Char} (hdigit : c.isDigit) :
    c ∈ ['0', '1', '2', '3', '4', '5', '6', '7', '8', '9'] := by
  have hrange : 48 ≤ c.toNat ∧ c.toNat ≤ 57 := by
    simpa [Char.isDigit, UInt32.le_iff_toNat_le] using hdigit
  have hchar : c = Char.ofNat c.toNat := (Char.ofNat_toNat c).symm
  rw [hchar]
  obtain ⟨hlow, hhigh⟩ := hrange
  interval_cases c.toNat <;> decide

theorem digitValue_digitChar {digit : ℕ} (hdigit : digit < 16) :
    digitValue (Nat.digitChar digit) = digit := by
  interval_cases digit <;> decide

/-- A digit is read as its value, and is none of the characters that mean something else. -/
theorem digitValue_of_isDigit {c : Char} (hdigit : c.isDigit) :
    digitValue c = c.toNat - '0'.toNat ∧ digitValue c < 10 ∧ isWhiteSpace c = false ∧
      c ∉ ['+', '-', '.', 'e', 'E', 'x', 'X', 'o', 'O', 'b', 'B'] := by
  have hcases := isDigit_cases hdigit
  simp only [List.mem_cons, List.not_mem_nil, or_false] at hcases
  rcases hcases with rfl | rfl | rfl | rfl | rfl | rfl | rfl | rfl | rfl | rfl <;> decide

theorem trim_of_forall {text : List Char} (hblack : ∀ c ∈ text, isWhiteSpace c = false) :
    trim text = text := by
  have hdrop : ∀ text : List Char, (∀ c ∈ text, isWhiteSpace c = false) →
      text.dropWhile isWhiteSpace = text := by
    intro text hblack
    cases text with
    | nil => rfl
    | cons c rest => rw [List.dropWhile_cons_of_neg (by simp [hblack c List.mem_cons_self])]
  rw [trim, hdrop text hblack, hdrop text.reverse fun c hc => hblack c (List.mem_reverse.1 hc),
    List.reverse_reverse]

theorem span_of_forall {p : Char → Bool} {text : List Char} (hall : ∀ c ∈ text, p c = true) :
    text.span p = (text, []) := by
  rw [List.span_eq_takeWhile_dropWhile, List.takeWhile_eq_self_iff.2 hall,
    List.dropWhile_eq_nil_iff.2 hall]

theorem digits_toDigits (n : ℕ) : digits 10 (Nat.toDigits 10 n) = some n := by
  have hdigits : ∀ c ∈ Nat.toDigits 10 n, c.isDigit :=
    fun c hc => Nat.isDigit_of_mem_toDigits (by omega) (by omega) hc
  have hall : ((Nat.toDigits 10 n).all fun c => digitValue c < 10) = true := by
    rw [List.all_eq_true]
    intro c hc
    simpa using (digitValue_of_isDigit (hdigits c hc)).2.1
  have hfold : ∀ (text : List Char) (start : ℕ), (∀ c ∈ text, c.isDigit) →
      text.foldl (fun value c => value * 10 + digitValue c) start = Nat.ofDigitChars 10 text start := by
    intro text
    induction text with
    | nil => intro start _; simp
    | cons c rest ih =>
        intro start htext
        have hc := (digitValue_of_isDigit (htext c List.mem_cons_self)).1
        rw [List.foldl_cons, Nat.ofDigitChars_cons, hc, Nat.mul_comm start 10]
        exact ih _ fun other hother => htext other (List.mem_cons_of_mem _ hother)
  rw [digits, if_pos ⟨Nat.toDigits_ne_nil, hall⟩, hfold _ 0 hdigits, Nat.ofDigitChars_ten_toDigits]

/-- A number in decimal ends at the first character that is not a digit. -/
theorem toDigits_append_cons_inj {m n : ℕ} {c : Char} (hc : ¬ c.isDigit) {rest rest' : List Char}
    (heq : Nat.toDigits 10 m ++ c :: rest = Nat.toDigits 10 n ++ c :: rest') :
    m = n ∧ rest = rest' := by
  have hsplit : ∀ (k : ℕ) (tail : List Char),
      (Nat.toDigits 10 k ++ c :: tail).span Char.isDigit = (Nat.toDigits 10 k, c :: tail) := by
    intro k tail
    have hdigits : ∀ d ∈ Nat.toDigits 10 k, d.isDigit :=
      fun d hd => Nat.isDigit_of_mem_toDigits (by omega) (by omega) hd
    rw [List.span_eq_takeWhile_dropWhile, List.takeWhile_append_of_pos hdigits,
      List.dropWhile_append_of_pos hdigits, List.takeWhile_cons_of_neg hc,
      List.dropWhile_cons_of_neg hc, List.append_nil]
  have hboth := congrArg (List.span Char.isDigit) heq
  rw [hsplit, hsplit, Prod.mk.injEq] at hboth
  have hread := congrArg (digits 10) hboth.1
  rw [digits_toDigits, digits_toDigits] at hread
  exact ⟨Option.some.inj hread, (List.cons.inj hboth.2).2⟩

theorem literal_toDigits (n : ℕ) : literal (Nat.toDigits 10 n) = some (n : ℚ) := by
  have hdigits : ∀ c ∈ Nat.toDigits 10 n, c.isDigit :=
    fun c hc => Nat.isDigit_of_mem_toDigits (by omega) (by omega) hc
  have hnot : ∀ c ∈ Nat.toDigits 10 n,
      c ∉ ['+', '-', '.', 'e', 'E', 'x', 'X', 'o', 'O', 'b', 'B'] :=
    fun c hc => (digitValue_of_isDigit (hdigits c hc)).2.2.2
  have htrim : trim (Nat.toDigits 10 n) = Nat.toDigits 10 n :=
    trim_of_forall fun c hc => (digitValue_of_isDigit (hdigits c hc)).2.2.1
  have hdecimal : decimal (Nat.toDigits 10 n) = some (n : ℚ) := by
    have hexponent : (Nat.toDigits 10 n).span (fun c => c ≠ 'e' ∧ c ≠ 'E') =
        (Nat.toDigits 10 n, []) := by
      refine span_of_forall fun c hc => ?_
      have hc' := hnot c hc
      simp only [List.mem_cons, not_or] at hc'
      simp [hc'.2.2.2.1, hc'.2.2.2.2.1]
    have hpoint : (Nat.toDigits 10 n).span (fun c => c ≠ '.') = (Nat.toDigits 10 n, []) := by
      refine span_of_forall fun c hc => ?_
      have hc' := hnot c hc
      simp only [List.mem_cons, not_or] at hc'
      simp [hc'.2.2.1]
    rw [decimal, hexponent]
    simp only [mantissa, hpoint, digits_toDigits, Option.map_some]
  have hsecond : ∀ first second rest, Nat.toDigits 10 n = first :: second :: rest →
      second ∉ ['x', 'X', 'o', 'O', 'b', 'B'] := by
    intro first second rest hsplit hmem
    refine hnot second (by rw [hsplit]; simp) ?_
    simp only [List.mem_cons] at hmem ⊢
    tauto
  have hfirst : ∀ first rest, Nat.toDigits 10 n = first :: rest → first ≠ '+' ∧ first ≠ '-' := by
    intro first rest hsplit
    have hc := hnot first (by rw [hsplit]; simp)
    simp only [List.mem_cons, not_or] at hc
    exact ⟨hc.1, hc.2.1⟩
  unfold literal
  rw [htrim]
  split
  case h_1 hnil => exact absurd hnil Nat.toDigits_ne_nil
  case h_2 rest hsplit => exact absurd (by simp) (hsecond _ _ _ hsplit)
  case h_3 rest hsplit => exact absurd (by simp) (hsecond _ _ _ hsplit)
  case h_4 rest hsplit => exact absurd (by simp) (hsecond _ _ _ hsplit)
  case h_5 rest hsplit => exact absurd (by simp) (hsecond _ _ _ hsplit)
  case h_6 rest hsplit => exact absurd (by simp) (hsecond _ _ _ hsplit)
  case h_7 rest hsplit => exact absurd (by simp) (hsecond _ _ _ hsplit)
  case h_8 =>
    unfold signed
    split
    case h_1 rest hsplit => exact absurd rfl (hfirst _ _ hsplit).1
    case h_2 rest hsplit => exact absurd rfl (hfirst _ _ hsplit).2
    case h_3 => exact hdecimal

/-- What `Number` reads of a whole number that was written in decimal. -/
theorem numberOf_toString {n : ℕ} (hn : n < 2 ^ 63) :
    numberOf (toString n) = some (Binary64.nearest n) := by
  have hsmall : |Binary64.nearest (n : ℚ)| < 2 ^ 1024 := by
    have hbound : Binary64.nearest ((2 : ℚ) ^ 63) = 2 ^ 63 := by
      have hexact := @Binary64.nearest_eq_self 1 63 (by norm_num) (by norm_num)
      norm_num at hexact ⊢
      exact hexact
    have hle : (n : ℚ) ≤ 2 ^ 63 := by exact_mod_cast hn.le
    rw [abs_of_nonneg (Binary64.nearest_nonneg (by positivity))]
    calc Binary64.nearest (n : ℚ) ≤ 2 ^ 63 := hbound ▸ Binary64.nearest_mono hle
      _ < 2 ^ 1024 := pow_lt_pow_right₀ (by norm_num) (by omega)
  rw [numberOf, show (toString n).toList = Nat.toDigits 10 n from Nat.toList_repr, literal_toDigits,
    Option.map_some, Option.filter_some_pos]
  simpa using hsmall

end ModelHub.JavaScript
