import MarkupDsl.Selector.Basic
import MarkupDsl.Text.Digits
import MarkupDsl.Text.Split

/-!
# Names and values in a selector

The smallest parts of a written selector: gaps, which are spaces and comments, and names and values,
which may hold escapes.
-/

namespace MarkupDsl.Selector

open Text

/-! ## Spaces and comments -/

def isSpace (c : Char) : Bool :=
  c == ' ' || c == '\t' || c == '\n' || c == '\r' || c == '\x0c'

/-- What follows one space; a carriage return and a line feed are one. -/
def afterSpace? : List Char → Option (List Char)
  | '\r' :: '\n' :: rest => some rest
  | c :: rest => if isSpace c then some rest else none
  | [] => none

def afterComment? : List Char → Option (List Char)
  | '/' :: '*' :: rest => (cutAt? ['*', '/'] rest).map (·.2)
  | _ => none

def afterGap? (cs : List Char) : Option (List Char) := (afterComment? cs).or (afterSpace? cs)

theorem length_afterSpace?_lt {cs rest : List Char} (h : afterSpace? cs = some rest) :
    rest.length < cs.length := by
  unfold afterSpace? at h
  split at h
  · cases h
    exact Nat.lt_add_of_pos_right (Nat.succ_pos 1)
  · split at h
    · cases h
      exact Nat.lt_succ_self _
    · cases h
  · cases h

theorem length_afterComment?_lt {cs rest : List Char} (h : afterComment? cs = some rest) :
    rest.length < cs.length := by
  unfold afterComment? at h
  split at h
  · next inside =>
    obtain ⟨parts, found, same⟩ := Option.map_eq_some_iff.1 h
    have := length_cutAt?_le found
    subst same
    simp
    omega
  · cases h

theorem length_afterGap?_lt {cs rest : List Char} (h : afterGap? cs = some rest) :
    rest.length < cs.length := by
  unfold afterGap? at h
  rcases Option.or_eq_some_iff.1 h with h | ⟨_, h⟩
  · exact length_afterComment?_lt h
  · exact length_afterSpace?_lt h

def skipGaps (cs : List Char) : List Char :=
  match _h : afterGap? cs with
  | none => cs
  | some rest => skipGaps rest
termination_by cs.length
decreasing_by exact length_afterGap?_lt _h

def skipComments (cs : List Char) : List Char :=
  match _h : afterComment? cs with
  | none => cs
  | some rest => skipComments rest
termination_by cs.length
decreasing_by exact length_afterComment?_lt _h

def skipSpacedGaps? (cs : List Char) : Option (List Char) :=
  (afterSpace? (skipComments cs)).map skipGaps

/-! ## Escapes -/

/-- The character that an escape stands for.  Some code points belong to no character of a text. -/
def escapedCharacter (code : Nat) : Except Error (Option Char) :=
  if 0x10FFFF < code then .error .noSuchCharacter
  else if code = 0 then .ok (some '\uFFFD')
  else if 0xD800 ≤ code ∧ code ≤ 0xDFFF then .ok none
  else .ok (some (Char.ofNat code))

/-- Read an escape by number behind its backslash; `after?` gives what follows one space. -/
def readNumericEscape? (after? : List Char → Option (List Char)) (cs : List Char) :
    Option (Except Error (Option Char) × List Char) :=
  let digits := (cs.takeWhile isHexDigit).take 6
  if digits.isEmpty then none
  else
    let rest := cs.drop digits.length
    some (escapedCharacter (digitsValue 16 digits), (after? rest).getD rest)

/-- Read an escape in a name behind its backslash.  At the end of the selector a backslash stands for
the replacement character. -/
def readEscape? (cs : List Char) : Option (Except Error (Option Char) × List Char) :=
  match readNumericEscape? afterSpace? cs with
  | some read => some read
  | none =>
    match cs with
    | [] => some (.ok (some '\uFFFD'), [])
    | ['\n'] => some (.ok (some '\uFFFD'), ['\n'])
    | c :: rest =>
      if c == '\n' || c == '\r' || c == '\x0c' then none else some (.ok (some c), rest)

/-! ## Names -/

/-- What a name or value stands for, as far as it is read, and what follows.  It stands for nothing
where one of its escapes belongs to no character of a text. -/
abbrev NameRead := Except Error (Option (List Char)) × List Char

def NameRead.cons (c : Except Error (Option Char)) (read : NameRead) : NameRead :=
  (do
    let c ← c
    let name ← read.1
    return do return (← c) :: (← name), read.2)

def beginsName (c : Char) : Bool := c.isAlpha || c == '_' || 0xA0 ≤ c.toNat

/-- Whether a character can stand inside a name. -/
def isNameChar (c : Char) : Bool := beginsName c || c.isDigit || c == '-'

def readNameRest : (bound : Nat) → List Char → NameRead
  | 0, cs => (.ok (some []), cs)
  | _ + 1, [] => (.ok (some []), [])
  | bound + 1, c :: rest =>
    if c == '\\' then
      match readEscape? rest with
      | none => (.ok (some []), c :: rest)
      | some (character, rest) => (readNameRest bound rest).cons character
    else if isNameChar c then (readNameRest bound rest).cons (.ok (some c))
    else (.ok (some []), c :: rest)

def readName? (cs : List Char) : Option NameRead :=
  let begins : List Char → Bool
    | [] => false
    | c :: rest => if c == '\\' then (readEscape? rest).isSome else beginsName c
  let opens :=
    match cs with
    | '-' :: '-' :: _ => true
    | '-' :: rest => begins rest
    | _ => begins cs
  if opens then some (readNameRest cs.length cs) else none

def lowerName (name : List Char) : String := String.ofList (name.map Char.toLower)

/-! ## Values -/

/-- What follows a space inside of quotes, where lines do not end. -/
def afterInnerSpace? : List Char → Option (List Char)
  | ' ' :: rest | '\t' :: rest => some rest
  | _ => none

/-- Read the inside of a quoted value up to its quote.  A backslash in front of a line end joins two
lines; a line feed that ends the value stays, and so does the backslash, as a replacement character. -/
def readQuoted? (quote : Char) : (bound : Nat) → List Char → Option NameRead
  | 0, _ => none
  | _ + 1, [] => none
  | bound + 1, c :: rest =>
    if c == quote then some (.ok (some []), rest)
    else if c == '\\' then
      match readNumericEscape? afterInnerSpace? rest with
      | some (character, rest) => (readQuoted? quote bound rest).map (NameRead.cons character)
      | none =>
        match rest with
        | '\r' :: '\n' :: rest => readQuoted? quote bound rest
        | '\n' :: rest =>
          if rest.head? = some quote then
            (readQuoted? quote bound rest).map fun read =>
              (read.cons (.ok (some '\n'))).cons (.ok (some '\uFFFD'))
          else readQuoted? quote bound rest
        | '\r' :: rest | '\x0c' :: rest => readQuoted? quote bound rest
        | c :: rest => (readQuoted? quote bound rest).map (NameRead.cons (.ok (some c)))
        | [] => none
    else if c == '\n' || c == '\r' || c == '\x0c' then none
    else (readQuoted? quote bound rest).map (NameRead.cons (.ok (some c)))

def readValue? (cs : List Char) : Option NameRead :=
  match cs with
  | '"' :: rest => readQuoted? '"' cs.length rest
  | '\'' :: rest => readQuoted? '\'' cs.length rest
  | _ => readName? cs

/-- Read values with commas between them.  Values that stand for nothing are left out. -/
def readValues? : (bound : Nat) → List Char → Option (Except Error (List (List Char)) × List Char)
  | 0, _ => none
  | bound + 1, cs =>
    match readValue? cs with
    | none => none
    | some (value, rest) =>
      let alone : Except Error (List (List Char)) := do return (← value).toList
      match skipGaps rest with
      | ',' :: more =>
        match readValues? bound (skipGaps more) with
        | some (values, rest) => some (do return (← alone) ++ (← values), rest)
        | none => some (alone, rest)
      | _ => some (alone, rest)

end MarkupDsl.Selector
