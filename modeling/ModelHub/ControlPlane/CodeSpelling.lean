import ModelHub.ControlPlane.Pairing
import Mathlib.Data.Fin.VecNotation
import Mathlib.Data.Set.Function
import Mathlib.Logic.Relation

/-!
# The spellings of a pairing code

A code is read off a screen and typed into a terminal, in whatever case and
with whatever between its characters.  `normalize` brings every such spelling
back to the eight characters that were drawn, so they all have one hash, and
the dash is all it drops of a minted code, so two codes have two.

What a character contributes to a normalized code does not depend on its
neighbours (`codeChars`), so an edit is followed at the character it touches.
-/

namespace ModelHub.ControlPlane

/-! ## Edits -/

/-- The letters outside of a–z whose upper case has a letter of A–Z in it. -/
def foreignLetters : List Char :=
  ['ß', 'ŉ', 'ı', 'ſ', 'ǰ', 'ẖ', 'ẗ', 'ẘ', 'ẙ', 'ẚ', 'ﬀ', 'ﬁ', 'ﬂ', 'ﬃ', 'ﬄ', 'ﬅ', 'ﬆ']

/-- Neither a letter nor a digit.  The letters and digits of other scripts,
such as é or ٣, are let through here: they count for nothing in a code either,
so the results below hold of more spellings than they have to. -/
def isFiller (c : Char) : Bool := ¬ c.isAlpha ∧ c ∉ foreignLetters ∧ ¬ c.isDigit

/-- One change to how a code is spelt. -/
inductive Edit : List Char → List Char → Prop
  | lower (before : List Char) (c : Char) (after : List Char) :
      Edit (before ++ c :: after) (before ++ c.toLower :: after)
  | upper (before : List Char) (c : Char) (after : List Char) :
      Edit (before ++ c :: after) (before ++ c.toUpper :: after)
  | insert (before : List Char) (c : Char) (after : List Char) (hc : isFiller c) :
      Edit (before ++ after) (before ++ c :: after)
  | delete (before : List Char) (c : Char) (after : List Char) (hc : isFiller c) :
      Edit (before ++ c :: after) (before ++ after)

/-- `text` is `code` after any number of edits. -/
def Respelled (code text : String) : Prop := Relation.ReflTransGen Edit code.toList text.toList

/-! ## Character by character -/

/-- What a character contributes to a normalized code. -/
def codeChars (c : Char) : List Char := (toUpperCase c).filter isCodeChar

theorem toList_normalize (code : String) : (normalize code).toList = code.toList.flatMap codeChars := by
  rw [normalize, String.toList_ofList, List.filter_flatMap]
  rfl

theorem normalize_eq_iff {code text : String} :
    normalize code = normalize text ↔ code.toList.flatMap codeChars = text.toList.flatMap codeChars := by
  rw [← toList_normalize, ← toList_normalize, String.toList_inj]

theorem isCodeChar_of_mem_codeChars {c d : Char} (hd : d ∈ codeChars c) : isCodeChar d :=
  List.of_mem_filter hd

/-- Off the letters that have an upper case, `toUpperCase` changes nothing. -/
theorem toUpperCase_of_not_lower {c : Char} (hlower : ¬ ('a' ≤ c ∧ c ≤ 'z'))
    (hforeign : c ∉ foreignLetters) : toUpperCase c = [c] := by
  unfold toUpperCase
  rw [if_neg hlower]
  split
  all_goals first | rfl | exact absurd (by decide) hforeign

theorem toNat_lt_of_isCodeChar {c : Char} (hc : isCodeChar c) : c.toNat < 128 := by
  have hrange : c.toNat ≤ 'Z'.toNat ∨ c.toNat ≤ '9'.toNat := by
    unfold isCodeChar at hc
    rcases of_decide_eq_true hc with ⟨-, hhigh⟩ | ⟨-, hhigh⟩
    · exact Or.inl hhigh
    · exact Or.inr hhigh
  have hlast : 'Z'.toNat = 90 ∧ '9'.toNat = 57 := by decide
  omega

/-- So that a fact about the ASCII characters can be checked on each of them. -/
theorem exists_of_toNat_lt {c : Char} (hc : c.toNat < 128) : ∃ n < 128, c = Char.ofNat n :=
  ⟨c.toNat, hc, (Char.ofNat_toNat c).symm⟩

theorem codeChars_of_isCodeChar {c : Char} (hc : isCodeChar c) : codeChars c = [c] := by
  have hascii : ∀ n < 128, isCodeChar (Char.ofNat n) → codeChars (Char.ofNat n) = [Char.ofNat n] := by
    decide
  obtain ⟨n, hn, rfl⟩ := exists_of_toNat_lt (toNat_lt_of_isCodeChar hc)
  exact hascii n hn hc

theorem codeChars_of_isFiller {c : Char} (hc : isFiller c) : codeChars c = [] := by
  rcases Nat.lt_or_ge c.toNat 128 with hlt | hge
  · have hascii : ∀ n < 128, isFiller (Char.ofNat n) → codeChars (Char.ofNat n) = [] := by
      decide
    obtain ⟨n, hn, rfl⟩ := exists_of_toNat_lt hlt
    exact hascii n hn hc
  · have hcode : ¬ isCodeChar c := fun hcode => by
      have := toNat_lt_of_isCodeChar hcode
      omega
    have hlower : ¬ ('a' ≤ c ∧ c ≤ 'z') := by
      rintro ⟨-, hz⟩
      have hz : c.toNat ≤ 122 := hz
      omega
    have hforeign : c ∉ foreignLetters := (of_decide_eq_true hc).2.1
    rw [codeChars, toUpperCase_of_not_lower hlower hforeign]
    simpa using hcode

theorem codeChars_toLower (c : Char) : codeChars c.toLower = codeChars c := by
  rcases Nat.lt_or_ge c.toNat 128 with hlt | hge
  · have hascii : ∀ n < 128, codeChars (Char.ofNat n).toLower = codeChars (Char.ofNat n) := by
      decide
    obtain ⟨n, hn, rfl⟩ := exists_of_toNat_lt hlt
    exact hascii n hn
  · have hsame : c.toLower = c := by
      unfold Char.toLower
      rw [dif_neg]
      rintro ⟨-, hz⟩
      have hz : c.toNat ≤ 90 := hz
      omega
    rw [hsame]

theorem codeChars_toUpper (c : Char) : codeChars c.toUpper = codeChars c := by
  rcases Nat.lt_or_ge c.toNat 128 with hlt | hge
  · have hascii : ∀ n < 128, codeChars (Char.ofNat n).toUpper = codeChars (Char.ofNat n) := by
      decide
    obtain ⟨n, hn, rfl⟩ := exists_of_toNat_lt hlt
    exact hascii n hn
  · have hsame : c.toUpper = c := by
      unfold Char.toUpper
      rw [dif_neg]
      rintro ⟨-, hz⟩
      have hz : c.toNat ≤ 122 := hz
      omega
    rw [hsame]

/-! ## Spelling by spelling -/

/-- An edit changes nothing at the characters that count. -/
theorem Edit.flatMap_codeChars {code text : List Char} (hedit : Edit code text) :
    text.flatMap codeChars = code.flatMap codeChars := by
  cases hedit with
  | lower before c after =>
      rw [List.flatMap_append, List.flatMap_cons, codeChars_toLower, ← List.flatMap_cons,
        ← List.flatMap_append]
  | upper before c after =>
      rw [List.flatMap_append, List.flatMap_cons, codeChars_toUpper, ← List.flatMap_cons,
        ← List.flatMap_append]
  | insert before c after hc =>
      rw [List.flatMap_append, List.flatMap_cons, codeChars_of_isFiller hc, List.nil_append,
        ← List.flatMap_append]
  | delete before c after hc =>
      rw [List.flatMap_append, List.flatMap_append, List.flatMap_cons, codeChars_of_isFiller hc,
        List.nil_append]

theorem Respelled.normalize_eq {code text : String} (hrespelled : Respelled code text) :
    normalize text = normalize code := by
  rw [normalize_eq_iff]
  unfold Respelled at hrespelled
  generalize code.toList = before, text.toList = after at hrespelled ⊢
  -- by induction on the edits, each of which changes nothing that counts
  induction hrespelled with
  | refl => rfl
  | tail _ hedit ih => rw [hedit.flatMap_codeChars, ih]

/-- A text of code characters is its own normal form. -/
theorem normalize_of_forall {code : String} (hcode : ∀ c ∈ code.toList, isCodeChar c) :
    normalize code = code := by
  rw [← String.toList_inj, toList_normalize]
  calc code.toList.flatMap codeChars = code.toList.flatMap fun c => [c] :=
        List.flatMap_congr fun c hc => codeChars_of_isCodeChar (hcode c hc)
    _ = code.toList := List.flatMap_singleton' _

theorem isCodeChar_of_mem_normalize {code : String} {c : Char} (hc : c ∈ (normalize code).toList) :
    isCodeChar c := by
  rw [toList_normalize] at hc
  obtain ⟨d, -, hd⟩ := List.mem_flatMap.mp hc
  exact isCodeChar_of_mem_codeChars hd

theorem normalize_normalize (code : String) : normalize (normalize code) = normalize code :=
  normalize_of_forall fun _ => isCodeChar_of_mem_normalize

/-! ## Minted codes -/

/-- The characters that were drawn for a code. -/
def drawn (draws : Fin 8 → Fin 32) : List Char := (List.ofFn draws).map pickChar

theorem isCodeChar_of_mem_drawn {draws : Fin 8 → Fin 32} {c : Char} (hc : c ∈ drawn draws) :
    isCodeChar c := by
  have hpick : ∀ draw, isCodeChar (pickChar draw) := by decide
  obtain ⟨draw, -, rfl⟩ := List.mem_map.mp hc
  exact hpick draw

theorem generateCode_eq (draws : Fin 8 → Fin 32) :
    generateCode draws =
      String.ofList ((drawn draws).take 4) ++ "-" ++ String.ofList ((drawn draws).drop 4) := by
  rw [generateCode, drawn, List.map_take, List.map_drop]

/-- All that is dropped of a minted code is its dash. -/
theorem normalize_generateCode (draws : Fin 8 → Fin 32) :
    normalize (generateCode draws) = String.ofList (drawn draws) := by
  have hplain : normalize (String.ofList (drawn draws)) = String.ofList (drawn draws) :=
    normalize_of_forall fun c hc => isCodeChar_of_mem_drawn (by rwa [String.toList_ofList] at hc)
  have hdash : Respelled (generateCode draws) (String.ofList (drawn draws)) := by
    have hedit := Edit.delete ((drawn draws).take 4) '-' ((drawn draws).drop 4) (by decide)
    rw [List.take_append_drop] at hedit
    unfold Respelled
    rw [generateCode_eq]
    simpa using Relation.ReflTransGen.single hedit
  calc normalize (generateCode draws) = normalize (String.ofList (drawn draws)) :=
        hdash.normalize_eq.symm
    _ = String.ofList (drawn draws) := hplain

theorem generateCode_eq_of_normalize_eq {draws draws' : Fin 8 → Fin 32}
    (hnormalize : normalize (generateCode draws) = normalize (generateCode draws')) :
    generateCode draws = generateCode draws' := by
  rw [normalize_generateCode, normalize_generateCode, String.ofList_inj] at hnormalize
  rw [generateCode_eq, generateCode_eq, hnormalize]

theorem length_normalize_generateCode (draws : Fin 8 → Fin 32) :
    (normalize (generateCode draws)).length = 8 := by
  rw [normalize_generateCode, String.length_ofList, drawn, List.length_map, List.length_ofFn]

/-- `normalize` is idempotent, every spelling of a minted code has its normal
form and its hash, and two minted codes have two normal forms.  They have two
hashes as well where the HMAC does not collide on texts of eight characters. -/
theorem normalize_spellings (env : PairingEnv) :
    (∀ code, normalize (normalize code) = normalize code) ∧
      (∀ draws text, Respelled (generateCode draws) text →
        normalize text = normalize (generateCode draws) ∧
          hashCode env text = hashCode env (generateCode draws)) ∧
      (∀ draws draws', normalize (generateCode draws) = normalize (generateCode draws') →
        generateCode draws = generateCode draws') ∧
      (Set.InjOn (env.hmacSha256Hex env.PAIRING_CODE_PEPPER) {text | text.length = 8} →
        ∀ draws draws', generateCode draws ≠ generateCode draws' →
          hashCode env (generateCode draws) ≠ hashCode env (generateCode draws')) := by
  refine ⟨normalize_normalize, ?_, fun _ _ => generateCode_eq_of_normalize_eq, ?_⟩
  · intro draws text hrespelled
    have hnormalize := hrespelled.normalize_eq
    exact ⟨hnormalize, by rw [hashCode, hashCode, hnormalize]⟩
  · intro hcollision draws draws' hne hhash
    have hnormalize : normalize (generateCode draws) = normalize (generateCode draws') :=
      hcollision (length_normalize_generateCode draws) (length_normalize_generateCode draws') hhash
    exact hne (generateCode_eq_of_normalize_eq hnormalize)

/-- A code in lower case and without its dash, next to another code. -/
theorem normalize_spellings_lower :
    let env : PairingEnv := ⟨"pepper", 600000, fun key text => key ++ text⟩
    hashCode env "aB2345 67" = hashCode env "AB23-4567" ∧
      hashCode env "AB23-4567" ≠ hashCode env "AB23-4568" := by
  intro env
  obtain ⟨-, hspelling, -, hdistinct⟩ := normalize_spellings env
  have hcode : generateCode ![0, 1, 24, 25, 26, 27, 28, 29] = "AB23-4567" := by decide
  have hother : generateCode ![0, 1, 24, 25, 26, 27, 28, 30] = "AB23-4568" := by decide
  constructor
  · have hrespelled : Respelled "AB23-4567" "aB2345 67" := by
      have hlower := Edit.lower [] 'A' "B23-4567".toList
      have hdelete := Edit.delete "aB23".toList '-' "4567".toList (by decide)
      have hinsert := Edit.insert "aB2345".toList ' ' "67".toList (by decide)
      exact ((Relation.ReflTransGen.single hlower).tail hdelete).tail hinsert
    rw [← hcode] at hrespelled ⊢
    exact (hspelling _ _ hrespelled).2
  · have hcollision : Set.InjOn (env.hmacSha256Hex env.PAIRING_CODE_PEPPER)
        {text | text.length = 8} := fun _ _ _ _ heq => by simpa [env] using heq
    rw [← hcode, ← hother]
    exact hdistinct hcollision _ _ (by rw [hcode, hother]; decide)

end ModelHub.ControlPlane
