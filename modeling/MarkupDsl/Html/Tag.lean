import MarkupDsl.Text.Blank
import MarkupDsl.Text.Split

/-!
# Tags

The inside of an opening tag: a name, then attributes with or without values.  A value stands between
quotes or goes on to the next blank.  Blanks and slashes separate; an attribute also begins right
after a closing quote.  A quote that is not closed opens no value.
-/

namespace MarkupDsl.Html

open Text

/-! ## Names -/

def isLetter (c : Char) : Bool := c.isAlpha

/-- Whether a character can stand inside the name of a tag. -/
def isTagNameChar (c : Char) : Bool :=
  !(c == '\t' || c == '\n' || c == '\r' || c == '\x0c' || c == ' ' || c == '/' || c == '>' ||
    c == '\x00')

def beginsAttribute (c : Char) : Bool := !(isBlank c || c == '/' || c == '>')

/-- Whether a character can stand inside the name of an attribute. -/
def isAttributeNameChar (c : Char) : Bool := !(isBlank c || c == '/' || c == '=' || c == '>')

def admitsAttribute (c : Char) : Bool := isBlank c || c == '/' || c == '\'' || c == '"'

/-! ## Separators -/

/-- Pass over blanks and slashes, but not over the slash that ends a tag.  The result tells the
character before the position as well. -/
def skipSeparators (before : Char) : List Char → Char × List Char
  | [] => (before, [])
  | c :: rest =>
    if c == '/' && rest.head? == some '>' then (before, c :: rest)
    else if c == '/' || isBlank c then skipSeparators c rest
    else (before, c :: rest)

theorem length_skipSeparators_le (before : Char) (cs : List Char) :
    (skipSeparators before cs).2.length ≤ cs.length := by
  induction cs generalizing before with
  | nil => simp [skipSeparators]
  | cons c rest ih =>
    unfold skipSeparators
    split
    · exact Nat.le_refl _
    · split
      · exact Nat.le_succ_of_le (ih c)
      · exact Nat.le_refl _

/-! ## Values -/

structure ValueRead where
  value : List Char
  last : Char
  rest : List Char

/-- Whether a character can stand in a value without quotes. -/
def isBareValueChar (c : Char) : Bool := !(isBlank c || c == '>')

def readBareValue (before : Char) (cs : List Char) : ValueRead :=
  let value := cs.takeWhile isBareValueChar
  ⟨value, value.getLastD before, cs.dropWhile isBareValueChar⟩

def isQuote (c : Char) : Bool := c == '\'' || c == '"'

/-- Read the value after an equals sign, which `signs` further ones may follow.  Before a quote that
is not closed the value is empty if there is a blank, and it begins with the last further sign if
there is one. -/
def readValueAfterSign? (signs : Nat) (cs : List Char) : Option ValueRead :=
  match cs.dropWhile isBlank with
  | [] => some ⟨[], '=', []⟩
  | c :: rest =>
    if isQuote c then
      match cutAt? [c] rest with
      | some (value, rest) => some ⟨value, c, rest⟩
      | none =>
        match (cs.takeWhile isBlank).getLast? with
        | some blank => some ⟨[], '=', blank :: c :: rest⟩
        | none => if signs = 0 then none else some (readBareValue '=' ('=' :: c :: rest))
    else some (readBareValue '=' (c :: rest))

def readValue? (cs : List Char) : Option ValueRead :=
  match cs.dropWhile isBlank with
  | '=' :: rest =>
    readValueAfterSign? (rest.takeWhile (· == '=')).length (rest.dropWhile (· == '='))
  | _ => none

theorem length_readValueAfterSign?_le {signs : Nat} {cs : List Char} {read : ValueRead}
    (h : readValueAfterSign? signs cs = some read) : read.rest.length ≤ cs.length + 1 := by
  have skipped := length_dropWhile_le_length isBlank cs
  unfold readValueAfterSign? at h
  split at h
  · cases h
    simp
  · next c rest eq =>
    rw [eq] at skipped
    have bare := length_dropWhile_le_length isBareValueChar
    split at h
    · split at h
      · next value rest' found =>
        cases h
        have := length_cutAt?_le found
        simp at skipped this ⊢
        omega
      · split at h
        · cases h
          simpa using skipped
        · split at h
          · cases h
          · cases h
            have := bare ('=' :: c :: rest)
            simp [readBareValue] at skipped this ⊢
            omega
    · cases h
      have := bare (c :: rest)
      simp [readBareValue] at skipped this ⊢
      omega

theorem length_readValue?_le {cs : List Char} {read : ValueRead}
    (h : readValue? cs = some read) : read.rest.length ≤ cs.length := by
  have skipped := length_dropWhile_le_length isBlank cs
  unfold readValue? at h
  split at h
  · next rest eq =>
    rw [eq] at skipped
    have signs := length_dropWhile_le_length (· == '=') rest
    have := length_readValueAfterSign?_le h
    simp at skipped
    omega
  · cases h

/-! ## Attributes -/

/-- An attribute as it is written in a tag; one without a value has the empty one. -/
abbrev WrittenAttribute := List Char × List Char

/-- Read attributes, up to the first position at which there is none. -/
def readAttributes (before : Char) (cs : List Char) : List WrittenAttribute × List Char :=
  match cs with
  | [] => ([], [])
  | c :: rest =>
    if admitsAttribute before && beginsAttribute c then
      let name := c :: rest.takeWhile isAttributeNameChar
      let afterName := rest.dropWhile isAttributeNameChar
      match _h : readValue? afterName with
      | none =>
        let next := skipSeparators (name.getLastD c) afterName
        let (attributes, rest) := readAttributes next.1 next.2
        ((name, []) :: attributes, rest)
      | some read =>
        let next := skipSeparators read.last read.rest
        let (attributes, rest) := readAttributes next.1 next.2
        ((name, read.value) :: attributes, rest)
    else ([], c :: rest)
termination_by cs.length
decreasing_by
  all_goals
    have skipped := length_skipSeparators_le
    have named := length_dropWhile_le_length isAttributeNameChar rest
  · exact Nat.lt_succ_of_le (Nat.le_trans (skipped _ _) named)
  · exact Nat.lt_succ_of_le (Nat.le_trans (skipped _ _)
      (Nat.le_trans (length_readValue?_le _h) named))

/-! ## Opening tags -/

inductive TagRead where
  /-- The text ends inside the tag, or an equals sign stands where none can. -/
  | unfinished
  /-- A null character ends the name: what precedes it is no tag. -/
  | interrupted (text rest : List Char)
  | complete (name : List Char) (attributes : List WrittenAttribute) (selfClosing : Bool)
      (rest : List Char)

def readTag (first : Char) (cs : List Char) : TagRead :=
  let name := first :: cs.takeWhile isTagNameChar
  let next := skipSeparators (name.getLastD first) (cs.dropWhile isTagNameChar)
  match readAttributes next.1 next.2 with
  | (_, []) | (_, '=' :: _) => .unfinished
  | (attributes, '>' :: rest) => .complete name attributes false rest
  | (attributes, '/' :: '>' :: rest) => .complete name attributes true rest
  | (_, rest) => .interrupted ('<' :: name) rest

end MarkupDsl.Html
