import Mathlib.Data.List.Basic
import Mathlib.Tactic.Common

/-!
# Texts in UTF-8

The bytes of a text, and the text of any bytes as Go decodes a string: a byte that does not
begin a character stands for U+FFFD, by itself.  So every list of bytes has a text, and
the bytes of a text have that text (`decode_encode`).
-/

namespace ModelHub.Utf8

def encode (chars : List Char) : List UInt8 := chars.flatMap String.utf8EncodeChar

/-- U+FFFD -/
def replacement : Char := Char.ofNat 0xFFFD

/-- The character that the bytes begin with. -/
def decodeRune (bytes : List UInt8) : Option Char := bytes.toByteArray.utf8DecodeChar? 0

/-- The characters of the bytes that follow the first `skip` ones. -/
def decodeFrom : ℕ → List UInt8 → List Char
  | _, [] => []
  | skip + 1, _ :: rest => decodeFrom skip rest
  | 0, byte :: rest =>
      match decodeRune (byte :: rest) with
      | some c => c :: decodeFrom (c.utf8Size - 1) rest
      | none => replacement :: decodeFrom 0 rest

def decode (bytes : List UInt8) : List Char := decodeFrom 0 bytes

theorem decodeRune_append (c : Char) (rest : List UInt8) :
    decodeRune (String.utf8EncodeChar c ++ rest) = some c := by
  rw [decodeRune, List.toByteArray_append, ByteArray.utf8DecodeChar?_utf8EncodeChar_append]

theorem decodeFrom_skip (skipped rest : List UInt8) :
    decodeFrom skipped.length (skipped ++ rest) = decodeFrom 0 rest := by
  induction skipped with
  | nil => rfl
  | cons byte skipped ih => exact ih

/-- The bytes of a text have that text. -/
@[simp] theorem decode_encode (chars : List Char) : decode (encode chars) = chars := by
  induction chars with
  | nil => rfl
  | cons c chars ih =>
      have hrune := decodeRune_append c (encode chars)
      have hlength := String.length_utf8EncodeChar c
      cases hbytes : String.utf8EncodeChar c with
      | nil =>
          rw [hbytes, List.length_nil] at hlength
          have hpos := c.utf8Size_pos
          omega
      | cons byte tail =>
          rw [hbytes, List.cons_append] at hrune
          rw [hbytes, List.length_cons] at hlength
          have htail : c.utf8Size - 1 = tail.length := by omega
          calc decode (encode (c :: chars))
              = decodeFrom 0 (byte :: (tail ++ encode chars)) := by
                rw [decode, encode, List.flatMap_cons, hbytes, List.cons_append]
                rfl
            _ = c :: decodeFrom tail.length (tail ++ encode chars) := by
                rw [decodeFrom, hrune]
                exact congrArg (fun skip => c :: decodeFrom skip (tail ++ encode chars)) htail
            _ = c :: decode (encode chars) := by rw [decodeFrom_skip, decode]
            _ = c :: chars := by rw [ih]

-- a byte that ends nothing, and a character that is cut off
example : decode [0x61, 0xBF, 0xC3, 0xA9, 0xE2, 0x82] =
    ['a', replacement, 'é', replacement, replacement] := by
  decide +kernel

end ModelHub.Utf8
