import MarkupDsl.Html.CharacterNames
import MarkupDsl.Text.Digits

/-!
# Character references

A reference stands for a character that is given by its number or by its name.  References in the
values of attributes and references in texts follow different rules: in a value every well-known
beginning of a name counts and some numbers stand for nothing, in a text a name counts as a whole.
-/

namespace MarkupDsl.Html

open Text

/-- Why a document cannot be read. -/
inductive Error where
  | rejected
  | numberTooLong
  deriving DecidableEq, Repr

/-! ## Names -/

structure CharacterName where
  name : List Char
  /-- Whether the name is also known without a closing semicolon. -/
  isBare : Bool
  text : List Char
  deriving DecidableEq, Repr

def pieces (separates : Char → Bool) : List Char → List (List Char)
  | [] => [[]]
  | c :: rest =>
    if separates c then [] :: pieces separates rest
    else
      match pieces separates rest with
      | [] => [[c]]
      | piece :: others => (c :: piece) :: others

def ofCodes (codes : List Char) : List Char :=
  (pieces (· == '+') codes).map fun code => Char.ofNat (digitsValue 16 code)

def CharacterName.ofEntry (entry : List Char) : CharacterName :=
  let name := entry.takeWhile Char.isAlphanum
  match entry.drop name.length with
  | mark :: codes => ⟨name, mark == '!', ofCodes codes⟩
  | [] => ⟨name, false, []⟩

def characterNames : List CharacterName :=
  characterNameLines.flatMap fun line =>
    (pieces (· == ' ') line.toList).map CharacterName.ofEntry

def named? (name : List Char) : Option CharacterName :=
  characterNames.find? fun entry => entry.name == name

/-- The character with a name that is known without a semicolon. -/
def bareNamed? (name : List Char) : Option CharacterName :=
  (named? name).filter (·.isBare)

/-! ## Numbers -/

/-- The code points that the numbers from 128 to 159 stand for: these numbers are read as bytes of
the Windows code page, and stand for themselves where that page has no character. -/
def windowsCodes : List Nat := [
  0x20AC, 0x81, 0x201A, 0x192, 0x201E, 0x2026, 0x2020, 0x2021, 0x2C6, 0x2030, 0x160, 0x2039,
  0x152, 0x8D, 0x17D, 0x8F, 0x90, 0x2018, 0x2019, 0x201C, 0x201D, 0x2022, 0x2013, 0x2014, 0x2DC,
  0x2122, 0x161, 0x203A, 0x153, 0x9D, 0x17E, 0x178]

/-- The character that stands for numbers of no character. -/
def replacement : Char := '\uFFFD'

def isNoCharacter (code : Nat) : Bool :=
  code == 0 || (0xD800 ≤ code && code ≤ 0xDFFF) || 0x10FFFF < code

def numbered (code : Nat) : Char :=
  if isNoCharacter code then replacement
  else if 0x80 ≤ code ∧ code ≤ 0x9F then Char.ofNat (windowsCodes.getD (code - 0x80) code)
  else Char.ofNat code

/-- Whether the character of a number is left out of the value of an attribute: controls and
non-characters. -/
def isLeftOut (code : Nat) : Bool :=
  (1 ≤ code && code ≤ 8) || code == 0xB || (0xE ≤ code && code ≤ 0x1F) || code == 0x7F ||
  (0xFDD0 ≤ code && code ≤ 0xFDEF) || 0xFFFE ≤ code % 0x10000

def numberedInValue (code : Nat) : List Char :=
  if !isNoCharacter code && isLeftOut code then [] else [numbered code]

/-- The number of a reference in a base.  Decimal numbers have a greatest length. -/
def referenceNumber (base : Nat) (digits : List Char) : Except Error Nat :=
  if base = 10 ∧ 4300 < digits.length then .error .numberTooLong
  else .ok (digitsValue base digits)

/-! ## References in values -/

/-- Whether a character can stand in a name that is looked for in the value of an attribute. -/
def isValueNameChar (c : Char) : Bool :=
  !(c == '\t' || c == '\n' || c == '\x0c' || c == ' ' || c == '<' || c == '&' || c == '#' || c == ';')

/-- The replacement of a run of characters whose longest beginning of at most `length` characters
that is a name counts.  Where there is none, the ampersand stays. -/
def longestNamed (run : List Char) : (length : Nat) → List Char
  | 0 | 1 => '&' :: run
  | length + 2 =>
    match bareNamed? (run.take (length + 2)) with
    | some entry => entry.text ++ run.drop (length + 2)
    | none => longestNamed run (length + 1)

def namedInValue (name : List Char) (closed : Bool) : List Char :=
  match if closed then named? name else bareNamed? name with
  | some entry => entry.text
  | none =>
    if closed then longestNamed (name ++ [';']) name.length else longestNamed name (name.length - 1)

/-- The length of a reference: a semicolon after it belongs to it. -/
def closedLength (length : Nat) (rest : List Char) : Nat :=
  if rest.head? = some ';' then length + 1 else length

/-- The reference that follows an ampersand in the value of an attribute: what it stands for, and
how many characters it takes. -/
def referenceInValue? (rest : List Char) : Except Error (Option (List Char × Nat)) :=
  let numeric (base skipped : Nat) (digits : List Char) :
      Except Error (Option (List Char × Nat)) :=
    if digits.isEmpty then .ok none
    else do
      let code ← referenceNumber base digits
      let length := skipped + digits.length
      return some (numberedInValue code, closedLength length (rest.drop length))
  match rest with
  | '#' :: 'x' :: more | '#' :: 'X' :: more => numeric 16 2 (more.takeWhile isHexDigit)
  | '#' :: more => numeric 10 1 (more.takeWhile Char.isDigit)
  | _ =>
    let name := (rest.takeWhile isValueNameChar).take 32
    if name.isEmpty then .ok none
    else
      let length := closedLength name.length (rest.drop name.length)
      .ok (some (namedInValue name (length != name.length), length))

def resolveValue : List Char → Except Error (List Char)
  | [] => .ok []
  | '&' :: rest => do
    match ← referenceInValue? rest with
    | none => return '&' :: (← resolveValue rest)
    | some (text, length) => return text ++ (← resolveValue (rest.drop length))
  | c :: rest => do return c :: (← resolveValue rest)
termination_by cs => cs.length
decreasing_by all_goals simp; try omega

end MarkupDsl.Html
