import ModelHub.Agent.Commands
import ModelHub.ControlPlane.NodeAuth
import ModelHub.Foundations.Positional

/-!
# The text of a uuid

The id of a node travels as a text: the database writes it (`uuidText`), `enroll` keeps it
in `config.json`, the header of a connection carries it, and `isUuid` checks its shape
before the database reads it again (`parseUuid`).  What is read is what was written, and
nothing else but the letters' case makes a difference (`parseUuid_eq_some_iff`).
-/

namespace ModelHub.ControlPlane

open Db JavaScript Positional
open ModelHub.Agent (uuidText)

/-! ## Hexadecimal digits -/

theorem digitChar_toLower {digit : ℕ} (hdigit : digit < 16) :
    (Nat.digitChar digit).toLower = Nat.digitChar digit := by
  interval_cases digit <;> decide

/-- The three ranges of the hexadecimal digits. -/
theorem hexDigit_cases {c : Char} (hhex : digitValue c < 16) :
    48 ≤ c.toNat ∧ c.toNat ≤ 57 ∨ 97 ≤ c.toNat ∧ c.toNat ≤ 102 ∨ 65 ≤ c.toNat ∧ c.toNat ≤ 70 := by
  have hle : ∀ first second : Char, first ≤ second ↔ first.toNat ≤ second.toNat :=
    fun _ _ => Iff.rfl
  simp only [digitValue, hle] at hhex
  simp only [show '0'.toNat = 48 from rfl, show '9'.toNat = 57 from rfl,
    show 'a'.toNat = 97 from rfl, show 'z'.toNat = 122 from rfl,
    show 'A'.toNat = 65 from rfl, show 'Z'.toNat = 90 from rfl] at hhex
  split at hhex
  · omega
  · split at hhex
    · omega
    · split at hhex <;> omega

theorem digitChar_digitValue {c : Char} (hhex : digitValue c < 16) :
    Nat.digitChar (digitValue c) = c.toLower ∧ digitValue c.toLower = digitValue c ∧ c ≠ '-' := by
  have hrange := hexDigit_cases hhex
  rw [← Char.ofNat_toNat c]
  rcases hrange with ⟨hlow, hhigh⟩ | ⟨hlow, hhigh⟩ | ⟨hlow, hhigh⟩ <;>
    interval_cases c.toNat <;> decide

/-- Only a hexadecimal digit becomes one in lower case, and only a hyphen a hyphen. -/
theorem toLower_spec (c : Char) :
    (digitValue c.toLower < 16 ↔ digitValue c < 16) ∧ (c.toLower = '-' ↔ c = '-') := by
  by_cases hupper : 65 ≤ c.toNat ∧ c.toNat ≤ 90
  · rw [← Char.ofNat_toNat c]
    obtain ⟨hlow, hhigh⟩ := hupper
    interval_cases c.toNat <;> decide
  · -- only capital letters change in lower case
    have hsame : c.toLower = c := by
      unfold Char.toLower
      exact dif_neg hupper
    rw [hsame]
    exact ⟨Iff.rfl, Iff.rfl⟩

/-- The digits of an id. -/
def hexOf (id : Uuid) : List Char := (fixed 16 32 id.toNat).map Nat.digitChar

theorem uuidText_toList (id : Uuid) : (uuidText id).toList = (hexOf id).take 8 ++ '-' ::
    (((hexOf id).drop 8).take 4 ++ '-' :: (((hexOf id).drop 12).take 4 ++ '-' ::
      (((hexOf id).drop 16).take 4 ++ '-' :: (hexOf id).drop 20))) := by
  have hhex : hexOf id =
      (List.range 32).map fun place => Nat.digitChar (id.toNat / 16 ^ (31 - place) % 16) := by
    rw [hexOf, fixed, List.map_map]
    rfl
  rw [uuidText, String.toList_ofList, hhex]
  simp only [List.append_assoc, List.cons_append]

@[simp] theorem hexOf_length (id : Uuid) : (hexOf id).length = 32 := by simp [hexOf]

theorem mem_hexOf {id : Uuid} {c : Char} (hmem : c ∈ hexOf id) :
    digitValue c < 16 ∧ c.toLower = c := by
  obtain ⟨digit, hdigit, rfl⟩ := List.mem_map.1 hmem
  have hlt : digit < 16 := mem_fixed (by omega) hdigit
  exact ⟨by rwa [digitValue_digitChar hlt], digitChar_toLower hlt⟩

/-! ## Five groups -/

/-- The text between the hyphens. -/
structure Groups where
  first : List Char
  second : List Char
  third : List Char
  fourth : List Char
  fifth : List Char

namespace Groups

variable (groups : Groups)

def text : List Char := groups.first ++ '-' :: (groups.second ++ '-' :: (groups.third ++ '-' ::
  (groups.fourth ++ '-' :: groups.fifth)))

def hex : List Char := groups.first ++ groups.second ++ groups.third ++ groups.fourth ++ groups.fifth

/-- Eight, four, four, four and twelve hexadecimal digits. -/
structure Shaped : Prop where
  first : groups.first.length = 8
  second : groups.second.length = 4
  third : groups.third.length = 4
  fourth : groups.fourth.length = 4
  fifth : groups.fifth.length = 12
  digits : ∀ c ∈ groups.hex, digitValue c < 16

/-- The digits of 32 characters, in groups. -/
def cut (hex : List Char) : Groups where
  first := hex.take 8
  second := (hex.drop 8).take 4
  third := (hex.drop 12).take 4
  fourth := (hex.drop 16).take 4
  fifth := hex.drop 20

theorem hex_cut (hex : List Char) : (cut hex).hex = hex := by
  have hstep : ∀ from_ to_ : ℕ, (hex.drop from_).take to_ ++ hex.drop (from_ + to_) = hex.drop from_ := by
    intro from_ to_
    rw [← List.drop_drop, List.take_append_drop]
  calc (cut hex).hex
      = hex.take 8 ++ ((hex.drop 8).take 4 ++ ((hex.drop 12).take 4 ++
          ((hex.drop 16).take 4 ++ hex.drop 20))) := by simp [Groups.hex, cut]
    _ = hex.take 8 ++ hex.drop 8 := by rw [hstep 16 4, hstep 12 4, hstep 8 4]
    _ = hex := List.take_append_drop 8 hex

theorem shaped_cut {hex : List Char} (hlength : hex.length = 32)
    (hdigits : ∀ c ∈ hex, digitValue c < 16) : (cut hex).Shaped where
  first := by simp [cut, hlength]
  second := by simp [cut, hlength]
  third := by simp [cut, hlength]
  fourth := by simp [cut, hlength]
  fifth := by simp [cut, hlength]
  digits := by rwa [hex_cut]

variable {groups}

theorem Shaped.length (hshaped : groups.Shaped) : groups.hex.length = 32 := by
  simp [hex, hshaped.first, hshaped.second, hshaped.third, hshaped.fourth, hshaped.fifth]

/-- Groups of these lengths are what their digits say. -/
theorem Shaped.eq_cut (hshaped : groups.Shaped) : groups = cut groups.hex := by
  obtain ⟨first, second, third, fourth, fifth⟩ := groups
  obtain ⟨hfirst, hsecond, hthird, hfourth, hfifth, -⟩ := hshaped
  simp only at hfirst hsecond hthird hfourth hfifth
  have hempty : ∀ {group : List Char} {count : ℕ}, group.length ≤ count → group.drop count = [] :=
    fun hle => List.drop_eq_nil_of_le hle
  simp [cut, hex, List.take_append, List.drop_append, hfirst, hsecond, hthird, hfourth,
    hempty (show first.length ≤ 16 by omega), hempty (show first.length ≤ 20 by omega),
    hempty (show second.length ≤ 8 by omega), hempty (show second.length ≤ 12 by omega),
    hempty (show third.length ≤ 8 by omega)]

theorem Shaped.splitOn (hshaped : groups.Shaped) : groups.text.splitOn '-' =
    [groups.first, groups.second, groups.third, groups.fourth, groups.fifth] := by
  have hfree : ∀ {group : List Char}, (∀ c ∈ group, c ∈ groups.hex) → '-' ∉ group :=
    fun hsubset hmem => absurd (hshaped.digits '-' (hsubset '-' hmem)) (by decide)
  rw [text, List.splitOn_append_cons_self_of_not_mem (hfree fun c hc => by simp [hex, hc]),
    List.splitOn_append_cons_self_of_not_mem (hfree fun c hc => by simp [hex, hc]),
    List.splitOn_append_cons_self_of_not_mem (hfree fun c hc => by simp [hex, hc]),
    List.splitOn_append_cons_self_of_not_mem (hfree fun c hc => by simp [hex, hc]),
    List.splitOn_eq_singleton (hfree fun c hc => by simp [hex, hc])]

/-- The groups in lower case. -/
def lower (groups : Groups) : Groups where
  first := groups.first.map Char.toLower
  second := groups.second.map Char.toLower
  third := groups.third.map Char.toLower
  fourth := groups.fourth.map Char.toLower
  fifth := groups.fifth.map Char.toLower

theorem lower_text (groups : Groups) : groups.lower.text = groups.text.map Char.toLower := by
  simp only [lower, text, List.map_append, List.map_cons]
  rfl

theorem lower_hex (groups : Groups) : groups.lower.hex = groups.hex.map Char.toLower := by
  simp only [lower, hex, List.map_append]

/-- A text that becomes groups in lower case has groups. -/
theorem exists_of_lower {chars : List Char} (hlower : chars.map Char.toLower = groups.text) :
    ∃ raw : Groups, chars = raw.text ∧ raw.lower = groups := by
  have hcut : ∀ {chars rest group : List Char}, chars.map Char.toLower = group ++ '-' :: rest →
      ∃ before after, chars = before ++ '-' :: after ∧ before.map Char.toLower = group ∧
        after.map Char.toLower = rest := by
    intro chars rest group hmap
    obtain ⟨before, tail, rfl, hbefore, htail⟩ := List.map_eq_append_iff.1 hmap
    obtain ⟨c, after, rfl, hc, hafter⟩ := List.map_eq_cons_iff.1 htail
    obtain rfl := (toLower_spec c).2.1 hc
    exact ⟨before, after, rfl, hbefore, hafter⟩
  obtain ⟨first, chars, rfl, hfirst, hlower⟩ := hcut hlower
  obtain ⟨second, chars, rfl, hsecond, hlower⟩ := hcut hlower
  obtain ⟨third, chars, rfl, hthird, hlower⟩ := hcut hlower
  obtain ⟨fourth, fifth, rfl, hfourth, hfifth⟩ := hcut hlower
  refine ⟨⟨first, second, third, fourth, fifth⟩, rfl, ?_⟩
  rw [lower, hfirst, hsecond, hthird, hfourth, hfifth]

theorem shaped_lower : groups.lower.Shaped ↔ groups.Shaped := by
  have hdigits : (∀ c ∈ groups.lower.hex, digitValue c < 16) ↔ ∀ c ∈ groups.hex, digitValue c < 16 := by
    rw [lower_hex, List.forall_mem_map]
    exact forall₂_congr fun c _ => (toLower_spec c).1
  constructor
  · rintro ⟨hfirst, hsecond, hthird, hfourth, hfifth, hlower⟩
    simp only [lower, List.length_map] at hfirst hsecond hthird hfourth hfifth
    exact ⟨hfirst, hsecond, hthird, hfourth, hfifth, hdigits.1 hlower⟩
  · rintro ⟨hfirst, hsecond, hthird, hfourth, hfifth, hraw⟩
    refine ⟨?_, ?_, ?_, ?_, ?_, hdigits.2 hraw⟩ <;> simpa only [lower, List.length_map]

end Groups

/-- What a text of hexadecimal digits stands for. -/
def idOf (hex : List Char) : Uuid := BitVec.ofNat 128 (value 16 (hex.map digitValue))

theorem digits_eq_some {hex : List Char} {n : ℕ} : digits 16 hex = some n ↔
    hex ≠ [] ∧ (∀ c ∈ hex, digitValue c < 16) ∧ n = value 16 (hex.map digitValue) := by
  have hfold : hex.foldl (fun value c => value * 16 + digitValue c) 0 =
      value 16 (hex.map digitValue) := by
    rw [value, List.foldl_map]
  unfold digits
  split
  case isTrue hall =>
    simp only [List.all_eq_true, decide_eq_true_eq] at hall
    obtain ⟨hne, hdigits⟩ := hall
    rw [hfold, Option.some.injEq]
    exact ⟨fun heq => ⟨hne, hdigits, heq.symm⟩, fun hvalue => hvalue.2.2.symm⟩
  case isFalse hnot =>
    simp only [List.all_eq_true, decide_eq_true_eq] at hnot
    simp only [reduceCtorEq, false_iff]
    rintro ⟨hne, hdigits, -⟩
    exact hnot ⟨hne, hdigits⟩

/-- A text is read if it has the five groups, as what their digits say. -/
theorem parseUuid_eq_some {text : String} {id : Uuid} : parseUuid text = some id ↔
    ∃ groups : Groups, groups.Shaped ∧ text.toList = groups.text ∧ id = idOf groups.hex := by
  constructor
  · intro hparse
    unfold parseUuid at hparse
    split at hparse
    case h_2 => exact absurd hparse (by simp)
    case h_1 first second third fourth fifth hsplit =>
      split at hparse
      case isFalse => exact absurd hparse (by simp)
      case isTrue hlengths =>
        obtain ⟨n, hvalue, rfl⟩ := Option.map_eq_some_iff.1 hparse
        obtain ⟨-, hdigits, rfl⟩ := digits_eq_some.1 hvalue
        simp only [List.map_cons, List.map_nil, List.cons.injEq, and_true] at hlengths
        obtain ⟨hfirst, hsecond, hthird, hfourth, hfifth⟩ := hlengths
        refine ⟨⟨first, second, third, fourth, fifth⟩,
          ⟨hfirst, hsecond, hthird, hfourth, hfifth, hdigits⟩, ?_, rfl⟩
        have htext : text.toList = ['-'].intercalate [first, second, third, fourth, fifth] := by
          rw [← hsplit, List.intercalate_splitOn]
        rw [htext]
        simp [List.intercalate, List.intersperse, Groups.text]
  · rintro ⟨groups, hshaped, htext, rfl⟩
    have hvalue : digits 16 groups.hex = some (value 16 (groups.hex.map digitValue)) := by
      refine digits_eq_some.2 ⟨?_, hshaped.digits, rfl⟩
      apply List.ne_nil_of_length_pos
      rw [hshaped.length]
      omega
    have hlengths : [groups.first, groups.second, groups.third, groups.fourth, groups.fifth].map
        List.length = [8, 4, 4, 4, 12] := by
      simp [hshaped.first, hshaped.second, hshaped.third, hshaped.fourth, hshaped.fifth]
    unfold parseUuid
    rw [htext, hshaped.splitOn]
    simp only [hlengths, if_true]
    exact congrArg (Option.map (BitVec.ofNat 128)) hvalue

/-! ## Reading what was written -/

theorem idOf_hexOf (id : Uuid) : idOf (hexOf id) = id := by
  have hdigits : (hexOf id).map digitValue = fixed 16 32 id.toNat := by
    rw [hexOf, List.map_map]
    conv_rhs => rw [← List.map_id (fixed 16 32 id.toNat)]
    apply List.map_congr_left
    intro digit hdigit
    exact digitValue_digitChar (mem_fixed (by omega) hdigit)
  have hbound : id.toNat < 16 ^ 32 := id.isLt
  rw [idOf, hdigits, value_fixed, Nat.mod_eq_of_lt hbound, BitVec.ofNat_toNat, BitVec.setWidth_eq]

theorem hexOf_idOf {hex : List Char} (hlength : hex.length = 32)
    (hdigits : ∀ c ∈ hex, digitValue c < 16) : hexOf (idOf hex) = hex.map Char.toLower := by
  have hsmall : ∀ digit ∈ hex.map digitValue, digit < 16 := by
    intro digit hdigit
    obtain ⟨c, hc, rfl⟩ := List.mem_map.1 hdigit
    exact hdigits c hc
  have hlt : value 16 (hex.map digitValue) < 2 ^ 128 := by
    have hbound := value_lt hsmall
    rw [List.length_map, hlength] at hbound
    exact hbound
  have hwidth : (hex.map digitValue).length = 32 := by rw [List.length_map, hlength]
  rw [hexOf, idOf, BitVec.toNat_ofNat, Nat.mod_eq_of_lt hlt, ← hwidth, fixed_value hsmall,
    List.map_map]
  apply List.map_congr_left
  intro c hc
  exact (digitChar_digitValue (hdigits c hc)).1

theorem uuidText_groups (id : Uuid) : (uuidText id).toList = (Groups.cut (hexOf id)).text :=
  uuidText_toList id

theorem lower_of_parseUuid {text : String} {id : Uuid} (hparse : parseUuid text = some id) :
    text.toList.map Char.toLower = (uuidText id).toList := by
  obtain ⟨groups, hshaped, htext, rfl⟩ := parseUuid_eq_some.1 hparse
  have hlower := (Groups.shaped_lower.2 hshaped).eq_cut
  rw [uuidText_groups, htext, ← Groups.lower_text, hexOf_idOf hshaped.length hshaped.digits,
    ← Groups.lower_hex, ← hlower]

theorem parseUuid_of_lower {text : String} {id : Uuid}
    (hlower : text.toList.map Char.toLower = (uuidText id).toList) : parseUuid text = some id := by
  rw [uuidText_groups] at hlower
  obtain ⟨groups, htext, hcut⟩ := Groups.exists_of_lower hlower
  have hshaped : groups.Shaped := by
    rw [← Groups.shaped_lower, hcut]
    exact Groups.shaped_cut (hexOf_length id) fun c hc => (mem_hexOf hc).1
  have hvalues : groups.hex.map digitValue = (hexOf id).map digitValue := by
    rw [← Groups.hex_cut (hexOf id), ← hcut, Groups.lower_hex, List.map_map]
    apply List.map_congr_left
    intro c hc
    exact (digitChar_digitValue (hshaped.digits c hc)).2.1.symm
  refine parseUuid_eq_some.2 ⟨groups, hshaped, htext, ?_⟩
  rw [idOf, hvalues]
  exact (idOf_hexOf id).symm

/-- What the database writes has no capital letters. -/
theorem uuidText_lower (id : Uuid) :
    (uuidText id).toList.map Char.toLower = (uuidText id).toList := by
  have hhex : (hexOf id).map Char.toLower = hexOf id := by
    conv_rhs => rw [← List.map_id (hexOf id)]
    exact List.map_congr_left fun c hc => (mem_hexOf hc).2
  rw [uuidText_groups, ← Groups.lower_text]
  congr 1
  simp only [Groups.lower, Groups.cut, List.map_take, List.map_drop, hhex]

/-- The id of a node reads back from its text. -/
theorem parseUuid_uuidText (id : Uuid) : parseUuid (uuidText id) = some id :=
  parseUuid_of_lower (uuidText_lower id)

/-- A text is read as an id exactly if it is the id's own text, but for the case of its
letters; so different ids have different texts. -/
theorem parseUuid_eq_some_iff :
    (∀ (text : String) (id : Uuid),
      parseUuid text = some id ↔ text.toList.map Char.toLower = (uuidText id).toList) ∧
    (∀ id : Uuid, parseUuid (uuidText id) = some id) ∧ Function.Injective uuidText := by
  refine ⟨fun text id => ⟨lower_of_parseUuid, parseUuid_of_lower⟩, parseUuid_uuidText, ?_⟩
  intro first second hsame
  have hparse := parseUuid_uuidText first
  rw [hsame, parseUuid_uuidText second] at hparse
  exact (Option.some.inj hparse).symm

end ModelHub.ControlPlane
