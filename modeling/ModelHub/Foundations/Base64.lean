import Mathlib.Data.List.Basic
import Mathlib.Tactic.Common

/-!
# Base64

The standard encoding with padding: three bytes are written as four digits of six
bits, and one or two bytes at the end as two or three digits and `=`.  The decoder
skips line breaks and refuses everything else that the encoder does not write.

`decode_encode` is the round trip.  An encoded text has no white space
(`encode_isGraph`), so trimming leaves it alone.
-/

namespace ModelHub.Base64

def ALPHABET : List Char := "ABCDEFGHIJKLMNOPQRSTUVWXYZabcdefghijklmnopqrstuvwxyz0123456789+/".toList

/-- The digit for six bits. -/
def digit (value : ℕ) : Char := ALPHABET.getD value '='

def digitValue (c : Char) : Option ℕ := ALPHABET.idxOf? c

/-- The digits of up to three bytes at the end of a text, or of three bytes on the way. -/
def encode : List UInt8 → List Char
  | [] => []
  | [a] => [digit (a.toNat / 4), digit (a.toNat % 4 * 16), '=', '=']
  | [a, b] =>
      [digit (a.toNat / 4), digit (a.toNat % 4 * 16 + b.toNat / 16), digit (b.toNat % 16 * 4), '=']
  | a :: b :: c :: rest =>
      digit (a.toNat / 4) :: digit (a.toNat % 4 * 16 + b.toNat / 16) ::
        digit (b.toNat % 16 * 4 + c.toNat / 64) :: digit (c.toNat % 64) :: encode rest

/-- The bytes that two, three or four digits hold; the bits left over are dropped. -/
def firstByte (p q : ℕ) : UInt8 := UInt8.ofNat (p * 4 + q / 16)

def secondByte (q r : ℕ) : UInt8 := UInt8.ofNat (q % 16 * 16 + r / 4)

def thirdByte (r s : ℕ) : UInt8 := UInt8.ofNat (r % 4 * 64 + s)

def decodeDigits : List Char → Option (List UInt8)
  | [] => some []
  | p :: q :: r :: s :: rest =>
      if r = '=' then
        if s = '=' ∧ rest = [] then do
          let p ← digitValue p
          let q ← digitValue q
          return [firstByte p q]
        else none
      else if s = '=' then
        if rest = [] then do
          let p ← digitValue p
          let q ← digitValue q
          let r ← digitValue r
          return [firstByte p q, secondByte q r]
        else none
      else do
        let p ← digitValue p
        let q ← digitValue q
        let r ← digitValue r
        let s ← digitValue s
        let rest ← decodeDigits rest
        return firstByte p q :: secondByte q r :: thirdByte r s :: rest
  | _ => none

def decode (text : List Char) : Option (List UInt8) :=
  decodeDigits (text.filter fun c => c ≠ '\r' ∧ c ≠ '\n')

/-! ## Digits -/

theorem digitValue_digit {value : ℕ} (hvalue : value < 64) : digitValue (digit value) = some value := by
  have hall : ∀ value : Fin 64, digitValue (digit value) = some value.val := by decide +kernel
  exact hall ⟨value, hvalue⟩

/-- A printed character other than a space. -/
def isGraph (c : Char) : Bool := 0x21 ≤ c.toNat ∧ c.toNat ≤ 0x7E

theorem digit_isGraph (value : ℕ) : isGraph (digit value) := by
  by_cases hvalue : value < 64
  · have hall : ∀ value : Fin 64, isGraph (digit value) = true := by decide +kernel
    exact hall ⟨value, hvalue⟩
  · have hlength : ALPHABET.length = 64 := by decide
    rw [digit, List.getD_eq_getElem?_getD, List.getElem?_eq_none (by omega)]
    decide

theorem digit_ne_padding {value : ℕ} (hvalue : value < 64) : digit value ≠ '=' := by
  have hall : ∀ value : Fin 64, digit value ≠ '=' := by decide +kernel
  exact hall ⟨value, hvalue⟩

theorem encode_isGraph (bytes : List UInt8) : ∀ c ∈ encode bytes, isGraph c := by
  fun_induction encode bytes with
  | case1 => simp
  | case2 a =>
      intro c hc
      simp only [List.mem_cons, List.not_mem_nil, or_false] at hc
      rcases hc with rfl | rfl | rfl | rfl
      · exact digit_isGraph _
      · exact digit_isGraph _
      · decide
      · decide
  | case3 a b =>
      intro c hc
      simp only [List.mem_cons, List.not_mem_nil, or_false] at hc
      rcases hc with rfl | rfl | rfl | rfl
      · exact digit_isGraph _
      · exact digit_isGraph _
      · exact digit_isGraph _
      · decide
  | case4 a b c rest ih =>
      intro d hd
      simp only [List.mem_cons] at hd
      rcases hd with rfl | rfl | rfl | rfl | hrest
      · exact digit_isGraph _
      · exact digit_isGraph _
      · exact digit_isGraph _
      · exact digit_isGraph _
      · exact ih d hrest

/-! ## The round trip -/

theorem firstByte_eq (a : UInt8) {low : ℕ} (hlow : low < 16) :
    firstByte (a.toNat / 4) (a.toNat % 4 * 16 + low) = a := by
  have hbits : a.toNat / 4 * 4 + (a.toNat % 4 * 16 + low) / 16 = a.toNat := by omega
  rw [firstByte, hbits, UInt8.ofNat_toNat]

theorem secondByte_eq (b : UInt8) {high low : ℕ} (hlow : low < 4) :
    secondByte (high * 16 + b.toNat / 16) (b.toNat % 16 * 4 + low) = b := by
  have hbyte : b.toNat < 256 := b.toNat_lt
  have hbits : (high * 16 + b.toNat / 16) % 16 * 16 + (b.toNat % 16 * 4 + low) / 4 = b.toNat := by
    omega
  rw [secondByte, hbits, UInt8.ofNat_toNat]

theorem thirdByte_eq (c : UInt8) (high : ℕ) :
    thirdByte (high * 4 + c.toNat / 64) (c.toNat % 64) = c := by
  have hbyte : c.toNat < 256 := c.toNat_lt
  have hbits : (high * 4 + c.toNat / 64) % 4 * 64 + c.toNat % 64 = c.toNat := by omega
  rw [thirdByte, hbits, UInt8.ofNat_toNat]

theorem decodeDigits_encode (bytes : List UInt8) : decodeDigits (encode bytes) = some bytes := by
  fun_induction encode bytes with
  | case1 => rfl
  | case2 a =>
      have ha : a.toNat < 256 := a.toNat_lt
      have hbyte := @firstByte_eq a 0 (by omega)
      rw [Nat.add_zero] at hbyte
      simp only [decodeDigits, if_true, and_self, digitValue_digit (show a.toNat / 4 < 64 by omega),
        digitValue_digit (show a.toNat % 4 * 16 < 64 by omega), Option.bind_eq_bind, Option.bind_some,
        Option.pure_def, hbyte]
  | case3 a b =>
      have ha : a.toNat < 256 := a.toNat_lt
      have hb : b.toNat < 256 := b.toNat_lt
      have hsecond := @secondByte_eq b (a.toNat % 4) 0 (by omega)
      rw [Nat.add_zero] at hsecond
      have hr : b.toNat % 16 * 4 < 64 := by omega
      simp only [decodeDigits, if_neg (digit_ne_padding hr), if_true,
        digitValue_digit (show a.toNat / 4 < 64 by omega),
        digitValue_digit (show a.toNat % 4 * 16 + b.toNat / 16 < 64 by omega), digitValue_digit hr,
        Option.bind_eq_bind, Option.bind_some, Option.pure_def,
        firstByte_eq a (show b.toNat / 16 < 16 by omega), hsecond]
  | case4 a b c rest ih =>
      have ha : a.toNat < 256 := a.toNat_lt
      have hb : b.toNat < 256 := b.toNat_lt
      have hc : c.toNat < 256 := c.toNat_lt
      have hr : b.toNat % 16 * 4 + c.toNat / 64 < 64 := by omega
      have hs : c.toNat % 64 < 64 := by omega
      simp only [decodeDigits, if_neg (digit_ne_padding hr), if_neg (digit_ne_padding hs),
        digitValue_digit (show a.toNat / 4 < 64 by omega),
        digitValue_digit (show a.toNat % 4 * 16 + b.toNat / 16 < 64 by omega), digitValue_digit hr,
        digitValue_digit hs, ih, Option.bind_eq_bind, Option.bind_some, Option.pure_def,
        firstByte_eq a (show b.toNat / 16 < 16 by omega),
        secondByte_eq b (show c.toNat / 64 < 4 by omega), thirdByte_eq]

theorem decode_encode (bytes : List UInt8) : decode (encode bytes) = some bytes := by
  have hfilter : (encode bytes).filter (fun c => c ≠ '\r' ∧ c ≠ '\n') = encode bytes := by
    rw [List.filter_eq_self]
    intro c hc
    have hgraph := encode_isGraph bytes c hc
    have hne : c ≠ '\r' ∧ c ≠ '\n' := by
      constructor
      · rintro rfl
        revert hgraph
        decide
      · rintro rfl
        revert hgraph
        decide
    simpa using hne
  rw [decode, hfilter, decodeDigits_encode]

end ModelHub.Base64
