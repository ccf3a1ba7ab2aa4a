import ModelHub.Foundations.Base64
import Mathlib.Data.List.TakeWhile

/-!
# Base64url without padding

The alphabet that is safe in URLs and headers, written without `=` at the end.  The
decoder is a lenient one: it reads both alphabets, skips what is in neither, and stops
at padding.  It still gives back what the encoder wrote (`fromBase64url_rawURLEncode`).
-/

namespace ModelHub.Base64

def URL_ALPHABET : List Char :=
  "ABCDEFGHIJKLMNOPQRSTUVWXYZabcdefghijklmnopqrstuvwxyz0123456789-_".toList

def urlDigit (value : ℕ) : Char := URL_ALPHABET.getD value 'A'

/-- The value of a digit of either alphabet. -/
def anyDigitValue (c : Char) : Option ℕ := (digitValue c).or (URL_ALPHABET.idxOf? c)

/-- The bits of some bytes in groups of six, zeros at the end. -/
def sextets : List UInt8 → List ℕ
  | [] => []
  | [a] => [a.toNat / 4, a.toNat % 4 * 16]
  | [a, b] => [a.toNat / 4, a.toNat % 4 * 16 + b.toNat / 16, b.toNat % 16 * 4]
  | a :: b :: c :: rest =>
      (a.toNat / 4) :: (a.toNat % 4 * 16 + b.toNat / 16) :: (b.toNat % 16 * 4 + c.toNat / 64) ::
        (c.toNat % 64) :: sextets rest

/-- The bytes that are complete. -/
def ofSextets : List ℕ → List UInt8
  | p :: q :: r :: s :: rest => firstByte p q :: secondByte q r :: thirdByte r s :: ofSextets rest
  | [p, q, r] => [firstByte p q, secondByte q r]
  | [p, q] => [firstByte p q]
  | _ => []

def rawURLEncode (bytes : List UInt8) : List Char := (sextets bytes).map urlDigit

def fromBase64url (text : List Char) : List UInt8 :=
  ofSextets ((text.takeWhile fun c => c ≠ '=').filterMap anyDigitValue)

/-! ## Digits -/

theorem sextets_lt (bytes : List UInt8) : ∀ value ∈ sextets bytes, value < 64 := by
  fun_induction sextets bytes with
  | case1 => simp
  | case2 a =>
      have ha : a.toNat < 256 := a.toNat_lt
      simp only [List.mem_cons, List.not_mem_nil, or_false]
      omega
  | case3 a b =>
      have ha : a.toNat < 256 := a.toNat_lt
      have hb : b.toNat < 256 := b.toNat_lt
      simp only [List.mem_cons, List.not_mem_nil, or_false]
      omega
  | case4 a b c rest ih =>
      have ha : a.toNat < 256 := a.toNat_lt
      have hb : b.toNat < 256 := b.toNat_lt
      have hc : c.toNat < 256 := c.toNat_lt
      simp only [List.mem_cons]
      rintro value (rfl | rfl | rfl | rfl | hrest)
      · omega
      · omega
      · omega
      · omega
      · exact ih value hrest

theorem sextets_ne_nil {bytes : List UInt8} (hbytes : bytes ≠ []) : sextets bytes ≠ [] := by
  fun_cases sextets bytes with
  | case1 => exact absurd rfl hbytes
  | case2 | case3 | case4 => simp

theorem anyDigitValue_urlDigit {value : ℕ} (hvalue : value < 64) :
    anyDigitValue (urlDigit value) = some value := by
  have hall : ∀ value : Fin 64, anyDigitValue (urlDigit value) = some value.val := by decide +kernel
  exact hall ⟨value, hvalue⟩

/-- Neither padding nor the dot that separates the fields of a token. -/
theorem urlDigit_ne {value : ℕ} (hvalue : value < 64) : urlDigit value ≠ '=' ∧ urlDigit value ≠ '.' := by
  have hall : ∀ value : Fin 64, urlDigit value ≠ '=' ∧ urlDigit value ≠ '.' := by decide +kernel
  exact hall ⟨value, hvalue⟩

theorem rawURLEncode_ne (bytes : List UInt8) : ∀ c ∈ rawURLEncode bytes, c ≠ '=' ∧ c ≠ '.' := by
  intro c hc
  obtain ⟨value, hvalue, rfl⟩ := List.mem_map.1 hc
  exact urlDigit_ne (sextets_lt bytes value hvalue)

theorem rawURLEncode_ascii (bytes : List UInt8) : ∀ c ∈ rawURLEncode bytes, c.toNat < 0x80 := by
  have hall : ∀ value : Fin 64, (urlDigit value).toNat < 0x80 := by decide +kernel
  intro c hc
  obtain ⟨value, hvalue, rfl⟩ := List.mem_map.1 hc
  exact hall ⟨value, sextets_lt bytes value hvalue⟩

theorem rawURLEncode_ne_nil {bytes : List UInt8} (hbytes : bytes ≠ []) : rawURLEncode bytes ≠ [] :=
  fun hnil => sextets_ne_nil hbytes (List.map_eq_nil_iff.1 hnil)

/-! ## The round trip -/

theorem ofSextets_sextets (bytes : List UInt8) : ofSextets (sextets bytes) = bytes := by
  fun_induction sextets bytes with
  | case1 => rfl
  | case2 a =>
      have hbyte := @firstByte_eq a 0 (by omega)
      rw [Nat.add_zero] at hbyte
      rw [ofSextets, hbyte]
  | case3 a b =>
      have hb : b.toNat < 256 := b.toNat_lt
      have hsecond := @secondByte_eq b (a.toNat % 4) 0 (by omega)
      rw [Nat.add_zero] at hsecond
      rw [ofSextets, firstByte_eq a (by omega), hsecond]
  | case4 a b c rest ih =>
      have hb : b.toNat < 256 := b.toNat_lt
      have hc : c.toNat < 256 := c.toNat_lt
      rw [ofSextets, ih, firstByte_eq a (by omega), secondByte_eq b (by omega), thirdByte_eq]

theorem fromBase64url_rawURLEncode (bytes : List UInt8) :
    fromBase64url (rawURLEncode bytes) = bytes := by
  have htake : (rawURLEncode bytes).takeWhile (fun c => c ≠ '=') = rawURLEncode bytes := by
    rw [List.takeWhile_eq_self_iff]
    intro c hc
    simpa using (rawURLEncode_ne bytes c hc).1
  have hvalues : ∀ values : List ℕ, (∀ value ∈ values, value < 64) →
      (values.map urlDigit).filterMap anyDigitValue = values := by
    intro values hsmall
    induction values with
    | nil => rfl
    | cons value rest ih =>
        rw [List.map_cons, List.filterMap_cons_some (anyDigitValue_urlDigit (hsmall value List.mem_cons_self)),
          ih fun other hother => hsmall other (List.mem_cons_of_mem _ hother)]
  rw [fromBase64url, htake, rawURLEncode, hvalues _ (sextets_lt bytes), ofSextets_sextets]

end ModelHub.Base64
