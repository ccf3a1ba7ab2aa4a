import Mathlib.Data.List.Induction
import Mathlib.Tactic.Linarith
import Mathlib.Tactic.Ring

/-!
# Numbers of a fixed width

Lists of digits with the most significant one first.  `fixed base width` are the last
`width` digits of a number, with zeros in front where it is shorter, and `value` reads
them back: on lists of this length whose digits are below the base the two are inverse to
each other.
-/

namespace ModelHub.Positional

def value (base : ℕ) (digits : List ℕ) : ℕ := digits.foldl (fun value digit => value * base + digit) 0

def fixed (base width n : ℕ) : List ℕ :=
  (List.range width).map fun place => n / base ^ (width - 1 - place) % base

variable {base width n : ℕ} {digits : List ℕ}

@[simp] theorem value_nil : value base [] = 0 := rfl

@[simp] theorem value_concat (digits : List ℕ) (digit : ℕ) :
    value base (digits ++ [digit]) = value base digits * base + digit := by
  rw [value, List.foldl_append]
  rfl

@[simp] theorem length_fixed : (fixed base width n).length = width := by simp [fixed]

@[simp] theorem fixed_zero : fixed base 0 n = [] := rfl

theorem fixed_succ : fixed base (width + 1) n = fixed base width (n / base) ++ [n % base] := by
  unfold fixed
  rw [List.range_succ, List.map_append, List.map_singleton]
  congr 1
  · apply List.map_congr_left
    intro place hplace
    have hlt : place < width := List.mem_range.1 hplace
    have hexponent : width + 1 - 1 - place = (width - 1 - place) + 1 := by omega
    rw [hexponent, pow_succ', ← Nat.div_div_eq_div_mul]
  · simp

theorem mem_fixed (hbase : 0 < base) {digit : ℕ} (hmem : digit ∈ fixed base width n) :
    digit < base := by
  obtain ⟨place, -, rfl⟩ := List.mem_map.1 hmem
  exact Nat.mod_lt _ hbase

theorem value_fixed : value base (fixed base width n) = n % base ^ width := by
  induction width generalizing n with
  | zero => simp [Nat.mod_one]
  | succ width ih =>
      calc value base (fixed base (width + 1) n)
          = n / base % base ^ width * base + n % base := by rw [fixed_succ, value_concat, ih]
        _ = n % base + base * (n / base % base ^ width) := by ring
        _ = n % base ^ (width + 1) := by rw [pow_succ', Nat.mod_mul]

theorem value_lt (hdigits : ∀ digit ∈ digits, digit < base) :
    value base digits < base ^ digits.length := by
  induction digits using List.reverseRecOn with
  | nil => simp
  | append_singleton digits digit ih =>
      have hlast : digit < base := hdigits digit (by simp)
      have hrest := ih fun other hother => hdigits other (List.mem_append_left _ hother)
      calc value base (digits ++ [digit])
          = value base digits * base + digit := value_concat _ _
        _ < (value base digits + 1) * base := by linarith [Nat.succ_mul (value base digits) base]
        _ ≤ base ^ digits.length * base := Nat.mul_le_mul_right _ hrest
        _ = base ^ (digits ++ [digit]).length := by
            rw [List.length_append, List.length_singleton, pow_succ]

theorem fixed_value (hdigits : ∀ digit ∈ digits, digit < base) :
    fixed base digits.length (value base digits) = digits := by
  induction digits using List.reverseRecOn with
  | nil => rfl
  | append_singleton digits digit ih =>
      have hlast : digit < base := hdigits digit (by simp)
      have hrest := ih fun other hother => hdigits other (List.mem_append_left _ hother)
      have hpos : 0 < base := by omega
      have hquotient : (value base digits * base + digit) / base = value base digits := by
        rw [Nat.add_comm, Nat.add_mul_div_right _ _ hpos, Nat.div_eq_of_lt hlast, Nat.zero_add]
      have hremainder : (value base digits * base + digit) % base = digit := by
        rw [Nat.add_comm, Nat.add_mul_mod_self_right, Nat.mod_eq_of_lt hlast]
      rw [List.length_append, List.length_singleton, fixed_succ, value_concat, hquotient,
        hremainder, hrest]

end ModelHub.Positional
