import ModelHub.Foundations.JavaScript
import ModelHub.Foundations.Utf8

/-!
# JSON texts

A reader of JSON as `encoding/json` of Go has it (numbers are kept as they are written, a
half of a surrogate pair stands for U+FFFD, a text is rejected that nests more than 10000
levels), and the texts that `json.MarshalIndent` makes for flat objects, with its escapes.
What is written is read back: `parse_indented`.
-/

namespace ModelHub.Json

open JavaScript (digitValue digitValue_digitChar)
open Utf8 (replacement)

inductive Value where
  | null
  | bool (value : Bool)
  | number (text : List Char)
  | text (chars : List Char)
  | array (elements : List Value)
  | object (members : List (List Char × Value))

/-! ## Texts in quotes -/

/-- A part of a text in quotes: a character, or a `\u` escape. -/
inductive Piece where
  | char (c : Char)
  | code (unit : ℕ)
  deriving DecidableEq, Repr

/-- Four hexadecimal digits. -/
def unit (a b c d : Char) : Option ℕ :=
  if digitValue a < 16 ∧ digitValue b < 16 ∧ digitValue c < 16 ∧ digitValue d < 16 then
    some (((digitValue a * 16 + digitValue b) * 16 + digitValue c) * 16 + digitValue d)
  else none

/-- What a letter after a backslash stands for. -/
def escaped (c : Char) : Option Char :=
  if c = '"' ∨ c = '\\' ∨ c = '/' then some c
  else if c = 'b' then some (Char.ofNat 8)
  else if c = 'f' then some (Char.ofNat 12)
  else if c = 'n' then some '\n'
  else if c = 'r' then some '\r'
  else if c = 't' then some '\t'
  else none

/-- The pieces up to the closing quote, and what follows it. -/
def pieces : List Char → Option (List Piece × List Char)
  | [] => none
  | c :: rest =>
      if c = '"' then some ([], rest)
      else if c = '\\' then
        match rest with
        | 'u' :: a :: b :: c :: d :: rest =>
            (unit a b c d).bind fun code => (pieces rest).map fun (all, rest) =>
              (.code code :: all, rest)
        | e :: rest =>
            (escaped e).bind fun c => (pieces rest).map fun (all, rest) => (.char c :: all, rest)
        | [] => none
      else if c.toNat < 0x20 then none
      else (pieces rest).map fun (all, rest) => (.char c :: all, rest)

/-- An escape that is not a half of a character. -/
def single (code : ℕ) : Char :=
  if 0xD800 ≤ code ∧ code < 0xE000 then replacement else Char.ofNat code

/-- The characters of the pieces: two escapes may be the halves of one character. -/
def join : List Piece → List Char
  | [] => []
  | .char c :: rest => c :: join rest
  | .code high :: .code low :: rest =>
      if (0xD800 ≤ high ∧ high < 0xDC00) ∧ 0xDC00 ≤ low ∧ low < 0xE000 then
        Char.ofNat (0x10000 + (high - 0xD800) * 0x400 + (low - 0xDC00)) :: join rest
      else single high :: join (.code low :: rest)
  | .code code :: rest => single code :: join rest

def quoted (text : List Char) : Option (List Char × List Char) :=
  (pieces text).map fun (all, rest) => (join all, rest)

/-! ## Numbers -/

/-- What follows one digit or more. -/
def afterDigits : List Char → Option (List Char)
  | [] => none
  | c :: rest => if c.isDigit then some (rest.dropWhile Char.isDigit) else none

/-- What follows a number. -/
def afterNumber (text : List Char) : Option (List Char) := do
  let whole ←
    match if text.head? = some '-' then text.tail else text with
    | '0' :: rest => some rest
    | unsigned => afterDigits unsigned
  let decimal ←
    match whole with
    | '.' :: rest => afterDigits rest
    | _ => some whole
  match decimal with
  | c :: rest =>
      if c = 'e' ∨ c = 'E' then
        afterDigits (if rest.head? = some '+' ∨ rest.head? = some '-' then rest.tail else rest)
      else some decimal
  | [] => some []

def number (text : List Char) : Option (Value × List Char) :=
  (afterNumber text).map fun rest => (.number (text.take (text.length - rest.length)), rest)

/-! ## Values -/

def isSpace (c : Char) : Bool := c = ' ' ∨ c = '\t' ∨ c = '\r' ∨ c = '\n'

def skipSpace (text : List Char) : List Char := text.dropWhile isSpace

def maxNestingDepth : ℕ := 10000

-- `fuel` bounds the calls within each other; each has read a character since the last

mutual

/-- A value and what follows it; `depth` levels may still be opened. -/
def value : ℕ → ℕ → List Char → Option (Value × List Char)
  | 0, _, _ => none
  | fuel + 1, depth, text =>
      match skipSpace text with
      | '"' :: rest => (quoted rest).map fun (chars, rest) => (.text chars, rest)
      | '{' :: rest =>
          if depth = 0 then none
          else
            match skipSpace rest with
            | '}' :: rest => some (.object [], rest)
            | rest => (members fuel (depth - 1) rest).map fun (all, rest) => (.object all, rest)
      | '[' :: rest =>
          if depth = 0 then none
          else
            match skipSpace rest with
            | ']' :: rest => some (.array [], rest)
            | rest => (elements fuel (depth - 1) rest).map fun (all, rest) => (.array all, rest)
      | 'n' :: 'u' :: 'l' :: 'l' :: rest => some (.null, rest)
      | 't' :: 'r' :: 'u' :: 'e' :: rest => some (.bool true, rest)
      | 'f' :: 'a' :: 'l' :: 's' :: 'e' :: rest => some (.bool false, rest)
      | text => number text

/-- The members of an object, to its brace. -/
def members : ℕ → ℕ → List Char → Option (List (List Char × Value) × List Char)
  | 0, _, _ => none
  | fuel + 1, depth, text =>
      match skipSpace text with
      | '"' :: rest =>
          (quoted rest).bind fun (key, rest) =>
            match skipSpace rest with
            | ':' :: rest =>
                (value fuel depth rest).bind fun (member, rest) =>
                  match skipSpace rest with
                  | ',' :: rest =>
                      (members fuel depth rest).map fun (all, rest) => ((key, member) :: all, rest)
                  | '}' :: rest => some ([(key, member)], rest)
                  | _ => none
            | _ => none
      | _ => none

/-- The elements of an array, to its bracket. -/
def elements : ℕ → ℕ → List Char → Option (List Value × List Char)
  | 0, _, _ => none
  | fuel + 1, depth, text =>
      (value fuel depth text).bind fun (element, rest) =>
        match skipSpace rest with
        | ',' :: rest => (elements fuel depth rest).map fun (all, rest) => (element :: all, rest)
        | ']' :: rest => some ([element], rest)
        | _ => none

end

/-- A text that is one value. -/
def parse (text : List Char) : Option Value :=
  (value (text.length + 1) maxNestingDepth text).bind fun (all, rest) =>
    if skipSpace rest = [] then some all else none

/-! ## Flat objects, as they are written -/

/-- A character in a text in quotes. -/
def escape (c : Char) : List Char :=
  if c = '"' ∨ c = '\\' then ['\\', c]
  else if c.toNat = 8 then ['\\', 'b']
  else if c.toNat = 12 then ['\\', 'f']
  else if c = '\n' then ['\\', 'n']
  else if c = '\r' then ['\\', 'r']
  else if c = '\t' then ['\\', 't']
  else if c.toNat < 0x20 ∨ c = '<' ∨ c = '>' ∨ c = '&' then
    ['\\', 'u', '0', '0', Nat.digitChar (c.toNat / 16), Nat.digitChar (c.toNat % 16)]
  else if c.toNat = 0x2028 ∨ c.toNat = 0x2029 then
    ['\\', 'u', '2', '0', '2', Nat.digitChar (c.toNat % 16)]
  else [c]

def quote (chars : List Char) : List Char := '"' :: (chars.flatMap escape ++ ['"'])

/-- A member that is a text, indented by two blanks. -/
def memberLine (key chars : List Char) : List Char :=
  ' ' :: ' ' :: (quote key ++ ':' :: ' ' :: quote chars)

/-- The lines of the members, and the brace. -/
def memberLines : List (List Char × List Char) → List Char
  | [] => ['}']
  | [(key, chars)] => memberLine key chars ++ ['\n', '}']
  | (key, chars) :: all => memberLine key chars ++ ',' :: '\n' :: memberLines all

/-- `json.MarshalIndent` with the indentation of two blanks, for an object whose members
are texts. -/
def indented (all : List (List Char × List Char)) : List Char :=
  match all with
  | [] => ['{', '}']
  | all => '{' :: '\n' :: memberLines all

/-! ## What is written is read back -/

theorem unit_digitChar {a b c d : ℕ} (ha : a < 16) (hb : b < 16) (hc : c < 16) (hd : d < 16) :
    unit (Nat.digitChar a) (Nat.digitChar b) (Nat.digitChar c) (Nat.digitChar d) =
      some (((a * 16 + b) * 16 + c) * 16 + d) := by
  rw [unit, digitValue_digitChar ha, digitValue_digitChar hb, digitValue_digitChar hc,
    digitValue_digitChar hd, if_pos ⟨ha, hb, hc, hd⟩]

/-- The three ways to write a character. -/
theorem escape_cases (c : Char) :
    (∃ e, escape c = ['\\', e] ∧ e ≠ 'u' ∧ escaped e = some c) ∨
    (∃ w x y z, escape c = '\\' :: 'u' :: [w, x, y, z] ∧ unit w x y z = some c.toNat ∧
      c.toNat < 0xD800) ∨
    (escape c = [c] ∧ c ≠ '"' ∧ c ≠ '\\' ∧ 0x20 ≤ c.toNat) := by
  unfold escape
  split
  case isTrue hquote =>
    refine Or.inl ⟨c, rfl, ?_⟩
    rcases hquote with rfl | rfl <;> decide
  case isFalse hquote =>
  split
  case isTrue hback => exact Or.inl ⟨'b', rfl, by decide, by rw [← Char.ofNat_toNat c, hback]; rfl⟩
  split
  case isTrue hfeed => exact Or.inl ⟨'f', rfl, by decide, by rw [← Char.ofNat_toNat c, hfeed]; rfl⟩
  split
  case isTrue hline => exact Or.inl ⟨'n', rfl, by decide, by rw [hline]; rfl⟩
  split
  case isTrue hreturn => exact Or.inl ⟨'r', rfl, by decide, by rw [hreturn]; rfl⟩
  split
  case isTrue htab => exact Or.inl ⟨'t', rfl, by decide, by rw [htab]; rfl⟩
  split
  case isTrue hcontrol =>
    have hlt : c.toNat < 0x40 := by
      rcases hcontrol with hlt | rfl | rfl | rfl
      · omega
      all_goals decide
    refine Or.inr (Or.inl ⟨_, _, _, _, rfl, ?_, by omega⟩)
    have hunit := unit_digitChar (a := 0) (b := 0) (c := c.toNat / 16) (d := c.toNat % 16)
      (by omega) (by omega) (by omega) (by omega)
    rw [show '0' = Nat.digitChar 0 from rfl, hunit]
    exact congrArg some (by omega)
  case isFalse hcontrol =>
  split
  case isTrue hline =>
    refine Or.inr (Or.inl ⟨_, _, _, _, rfl, ?_, by omega⟩)
    have hunit := unit_digitChar (a := 2) (b := 0) (c := 2) (d := c.toNat % 16)
      (by omega) (by omega) (by omega) (by omega)
    rw [show '2' = Nat.digitChar 2 from rfl, show '0' = Nat.digitChar 0 from rfl, hunit]
    exact congrArg some (by omega)
  case isFalse =>
    simp only [not_or] at hquote hcontrol
    exact Or.inr (Or.inr ⟨rfl, hquote.1, hquote.2, by omega⟩)

/-- A piece for a character by itself. -/
def Piece.Stands (piece : Piece) (c : Char) : Prop :=
  piece = .char c ∨ (piece = .code c.toNat ∧ c.toNat < 0xD800)

theorem pieces_escape (c : Char) : ∃ piece : Piece, piece.Stands c ∧
    ∀ rest, pieces (escape c ++ rest) = (pieces rest).map fun (all, rest) => (piece :: all, rest) := by
  rcases escape_cases c with ⟨e, hescape, hne, hescaped⟩ | ⟨w, x, y, z, hescape, hunit, hlt⟩ |
    ⟨hescape, hquote, hback, hle⟩
  · refine ⟨.char c, Or.inl rfl, fun rest => ?_⟩
    rw [hescape, List.cons_append, List.singleton_append, pieces.eq_def]
    simp only [show '\\' ≠ '"' from by decide, if_false, if_true]
    split
    case h_1 heq => exact absurd (List.cons.inj heq).1 hne
    case h_2 heq =>
      obtain ⟨rfl, rfl⟩ := List.cons.inj heq
      rw [hescaped, Option.bind_some]
    case h_3 heq => cases heq
  · refine ⟨.code c.toNat, Or.inr ⟨rfl, hlt⟩, fun rest => ?_⟩
    rw [hescape]
    simp [pieces, hunit]
  · refine ⟨.char c, Or.inl rfl, fun rest => ?_⟩
    rw [hescape, List.singleton_append, pieces.eq_def]
    have hcontrol : ¬ c.toNat < 0x20 := by omega
    simp only [hquote, hback, hcontrol, if_false]

theorem pieces_flatMap (chars rest : List Char) : ∃ all, List.Forall₂ Piece.Stands all chars ∧
    pieces (chars.flatMap escape ++ '"' :: rest) = some (all, rest) := by
  induction chars with
  | nil => exact ⟨[], .nil, by rw [List.flatMap_nil, List.nil_append, pieces.eq_def]; rfl⟩
  | cons c chars ih =>
      obtain ⟨all, hstands, hpieces⟩ := ih
      obtain ⟨piece, hstand, hescape⟩ := pieces_escape c
      refine ⟨piece :: all, .cons hstand hstands, ?_⟩
      rw [List.flatMap_cons, List.append_assoc, hescape, hpieces]
      rfl

theorem join_code {code : ℕ} (hcode : code < 0xD800) (rest : List Piece) :
    join (.code code :: rest) = Char.ofNat code :: join rest := by
  have hsingle : single code = Char.ofNat code := if_neg (by omega)
  rcases rest with _ | ⟨c | low, rest⟩
  · exact congrArg (· :: []) hsingle
  · exact congrArg (· :: c :: join rest) hsingle
  · rw [join, if_neg (by omega), hsingle]

theorem join_of_stands {all : List Piece} {chars : List Char}
    (hstands : List.Forall₂ Piece.Stands all chars) : join all = chars := by
  induction hstands with
  | nil => rfl
  | cons hstand hstands ih =>
      rcases hstand with rfl | ⟨rfl, hlt⟩
      · rw [join, ih]
      · rw [join_code hlt, Char.ofNat_toNat, ih]

theorem quoted_quote (chars rest : List Char) :
    quoted (chars.flatMap escape ++ '"' :: rest) = some (chars, rest) := by
  obtain ⟨all, hstands, hpieces⟩ := pieces_flatMap chars rest
  rw [quoted, hpieces]
  exact congrArg (fun read => some (read, rest)) (join_of_stands hstands)

theorem quote_append (chars rest : List Char) :
    quote chars ++ rest = '"' :: (chars.flatMap escape ++ '"' :: rest) := by
  simp [quote]

theorem value_quote (fuel depth : ℕ) (chars rest : List Char) :
    value (fuel + 1) depth (' ' :: (quote chars ++ rest)) = some (.text chars, rest) := by
  have hspace : skipSpace (' ' :: (quote chars ++ rest)) =
      '"' :: (chars.flatMap escape ++ '"' :: rest) := by
    rw [quote_append]
    rfl
  rw [value, hspace]
  simp only [quoted_quote, Option.map_some]

theorem skipSpace_memberLine (key chars rest : List Char) :
    skipSpace (memberLine key chars ++ rest) =
      '"' :: (key.flatMap escape ++ '"' :: ':' :: ' ' :: (quote chars ++ rest)) := by
  have hline : memberLine key chars ++ rest =
      ' ' :: ' ' :: '"' :: (key.flatMap escape ++ '"' :: ':' :: ' ' :: (quote chars ++ rest)) := by
    simp [memberLine, quote]
  rw [hline]
  rfl

theorem members_memberLine (fuel depth : ℕ) {key chars text rest : List Char}
    (htext : skipSpace text = skipSpace (memberLine key chars ++ rest)) :
    members (fuel + 2) depth text =
      match skipSpace rest with
      | ',' :: rest => (members (fuel + 1) depth rest).map fun (all, rest) =>
          ((key, .text chars) :: all, rest)
      | '}' :: rest => some ([(key, .text chars)], rest)
      | _ => none := by
  rw [members, htext, skipSpace_memberLine]
  have hcolon : skipSpace (':' :: ' ' :: (quote chars ++ rest)) = ':' :: ' ' :: (quote chars ++ rest) :=
    rfl
  simp only [quoted_quote, Option.bind_some, hcolon, value_quote]

/-- The members of a flat object. -/
def textMembers (all : List (List Char × List Char)) : List (List Char × Value) :=
  all.map fun (key, chars) => (key, .text chars)

theorem members_memberLines {all : List (List Char × List Char)} (hne : all ≠ []) {fuel : ℕ}
    (hfuel : all.length ≤ fuel) (depth : ℕ) {text rest : List Char}
    (htext : skipSpace text = skipSpace (memberLines all ++ rest)) :
    members (fuel + 1) depth text = some (textMembers all, rest) := by
  induction all generalizing fuel text with
  | nil => exact absurd rfl hne
  | cons member all ih =>
      obtain ⟨key, chars⟩ := member
      obtain ⟨fuel, rfl⟩ : ∃ less, fuel = less + 1 := ⟨fuel - 1, by simp at hfuel; omega⟩
      rcases all with _ | ⟨next, all⟩
      · have hlast : skipSpace text = skipSpace (memberLine key chars ++ '\n' :: '}' :: rest) := by
          rw [htext, memberLines, List.append_assoc]
          rfl
        rw [members_memberLine fuel depth hlast]
        rfl
      · have hline : skipSpace text = skipSpace (memberLine key chars ++
            ',' :: '\n' :: (memberLines (next :: all) ++ rest)) := by
          rw [htext, memberLines, List.append_assoc]
          · rfl
          · simp
        rw [members_memberLine fuel depth hline]
        have hcomma : skipSpace (',' :: '\n' :: (memberLines (next :: all) ++ rest)) =
            ',' :: '\n' :: (memberLines (next :: all) ++ rest) := rfl
        have hrest : members (fuel + 1) depth ('\n' :: (memberLines (next :: all) ++ rest)) =
            some (textMembers (next :: all), rest) :=
          ih (by simp) (by simpa using hfuel) rfl
        simp only [hcomma, hrest, Option.map_some]
        rfl

theorem length_memberLines (all : List (List Char × List Char)) :
    all.length < (memberLines all).length := by
  induction all with
  | nil => simp [memberLines]
  | cons member all ih =>
      obtain ⟨key, chars⟩ := member
      rcases all with _ | ⟨next, all⟩
      · simp [memberLines, memberLine]
      · rw [memberLines]
        · simp only [List.length_append, List.length_cons] at ih ⊢
          omega
        · simp

theorem skipSpace_memberLines {all : List (List Char × List Char)} (hne : all ≠ []) :
    ∃ first, skipSpace (memberLines all) = '"' :: first := by
  rcases all with _ | ⟨⟨key, chars⟩, _ | ⟨next, all⟩⟩
  · exact absurd rfl hne
  · exact ⟨_, skipSpace_memberLine key chars _⟩
  · exact ⟨_, skipSpace_memberLine key chars _⟩

theorem value_object {fuel depth : ℕ} {text first rest : List Char}
    {all : List (List Char × Value)} (htext : skipSpace text = '"' :: first)
    (hmembers : members fuel depth ('"' :: first) = some (all, rest)) :
    value (fuel + 1) (depth + 1) ('{' :: text) = some (.object all, rest) := by
  have hbrace : skipSpace ('{' :: text) = '{' :: text := rfl
  rw [value, hbrace]
  simp only [htext, Nat.add_one_ne_zero, if_false, Nat.add_sub_cancel]
  split
  case h_1 heq => exact absurd (List.cons.inj heq).1 (by decide)
  case h_2 => rw [hmembers, Option.map_some]

/-- A flat object is read as it was written. -/
theorem parse_indented (all : List (List Char × List Char)) :
    parse (indented all) = some (.object (textMembers all)) := by
  by_cases hne : all = []
  · subst hne
    rfl
  · have hindented : indented all = '{' :: '\n' :: memberLines all := by
      rcases all with _ | ⟨member, all⟩
      · exact absurd rfl hne
      · rfl
    obtain ⟨first, hfirst⟩ := skipSpace_memberLines hne
    have hmembers : members ((memberLines all).length + 2) 9999 ('"' :: first) =
        some (textMembers all, []) := by
      refine members_memberLines hne ?_ 9999 ?_
      · have hlength := length_memberLines all
        omega
      · rw [List.append_nil, hfirst]
        rfl
    rw [parse, hindented, maxNestingDepth]
    have hskip : skipSpace ('\n' :: memberLines all) = '"' :: first := hfirst
    have hvalue := value_object hskip hmembers
    simp only [List.length_cons, hvalue, Option.bind_some]
    rfl

end ModelHub.Json
