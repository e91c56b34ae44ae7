import MarkupDsl.Selector.Name

/-!
# Tokens of a selector

A written selector is a sequence of tests, combinators, and openings and closings of lists.
-/

namespace MarkupDsl.Selector

open Text

/-- A piece of a written selector.  Some pieces keep the place where they stand. -/
inductive Token where
  | test (test : Test)
  | contains (own : Bool) (texts : List (List Char))
  | type (test : Test)
  /-- A test of the position among the siblings that a list selects; the list follows. -/
  | positionAmong (place : Nat) (progression : Progression) (fromEnd : Bool)
  | pseudo (name : String) (opens : Bool)
  | combinator (place : Nat) (mark : Char)
  | close
  | fault (error : Error)
  deriving Repr, Inhabited

def Token.ofRead : Except Error Token → Token
  | .ok token => token
  | .error error => .fault error

/-- The test that a name makes up; no element passes where the name stands for nothing. -/
def Test.ofName (test : String → Test) : Option (List Char) → Test
  | none => .never
  | some name => test (String.ofList name)

def afterClose? (cs : List Char) : Option (List Char) :=
  match skipGaps cs with
  | ')' :: rest => some rest
  | _ => none

/-! ## Positions -/

/-- The number that decimal digits stand for, unless there are too many of them. -/
def number (digits : List Char) : Except Error Int :=
  if mostDigits < digits.length then .error .numberTooLong else .ok (digitsValue 10 digits)

def signed (isNegative : Bool) (size : Int) : Int := if isNegative then -size else size

/-- Read the second part of a progression: a sign and a number. -/
def readOffset? (cs : List Char) : Option (Except Error Int × List Char) :=
  match skipGaps cs with
  | sign :: rest =>
    if sign == '+' || sign == '-' then
      let rest := skipGaps rest
      let digits := rest.takeWhile Char.isDigit
      if digits.isEmpty then none
      else some ((number digits).map (signed (sign == '-')), rest.drop digits.length)
    else none
  | [] => none

def readProgression? (cs : List Char) : Option (Except Error Progression × List Char) :=
  let (negative, unsigned) :=
    match cs with
    | '-' :: rest => (true, rest)
    | '+' :: rest => (false, rest)
    | _ => (false, cs)
  let digits := unsigned.takeWhile Char.isDigit
  let step : Except Error Int := do
    return signed negative (← if digits.isEmpty then pure 1 else number digits)
  let single : Except Error Progression := do return ⟨0, ← step, true⟩
  match unsigned.drop digits.length with
  | c :: rest =>
    if c == 'n' || c == 'N' then
      match readOffset? rest with
      | some (offset, rest) => some (do return ⟨← step, ← offset, false⟩, rest)
      | none => some (do return ⟨← step, 0, false⟩, rest)
    else if digits.isEmpty then
      let word (name : String) : Bool :=
        (cs.take name.toList.length).map Char.toLower == name.toList
      if word "even" then some (.ok ⟨2, 0, false⟩, cs.drop 4)
      else if word "odd" then some (.ok ⟨2, 1, false⟩, cs.drop 3)
      else none
    else some (single, c :: rest)
  | [] => if digits.isEmpty then none else some (single, [])

/-- What follows the word that announces a list of siblings; gaps with a space in them stand around
it. -/
def afterOf? (cs : List Char) : Option (List Char) :=
  match skipSpacedGaps? cs with
  | some (o :: f :: rest) =>
    if o.toLower == 'o' && f.toLower == 'f' then skipSpacedGaps? rest else none
  | _ => none

/-! ## Attributes -/

/-- Read the comparison sign of an attribute test: its mark, if it has one, and what follows. -/
def readSign? (cs : List Char) : Option (Option Char × List Char) :=
  match cs with
  | '=' :: rest => some (none, rest)
  | mark :: '=' :: rest => if "!~^|*$".toList.contains mark then some (some mark, rest) else none
  | _ => none

/-- The test that a comparison sign stands for.  Nothing is a part of a value, but an empty part is
never looked for. -/
def comparisonTest (name : String) (mark : Option Char) (value : Option (List Char))
    (anyCase : Bool) : Test :=
  let test (comparison : Comparison) : Test :=
    match value with
    | none => .never
    | some value => .attribute name (some ⟨comparison, value, anyCase⟩)
  let unlessEmpty (comparison : Comparison) : Test :=
    if value = some [] then .never else test comparison
  match mark with
  | some '^' => unlessEmpty .beginning
  | some '$' => unlessEmpty .ending
  | some '*' => unlessEmpty .part
  | some '~' =>
    if (value.getD []).isEmpty || (value.getD []).any isSpace then .never else test .word
  | some '|' => test .dashed
  | some '!' => .noneOf [[test .equal]]
  | _ => test .equal

/-- Read a flag that says whether case counts.  Its letter may be any that differs from the right one
in case only, but only the plain letter has case left out of account. -/
def readCaseFlag (cs : List Char) : Option Bool × List Char :=
  match skipGaps cs with
  | c :: rest =>
    if "iIsSſıİ".toList.contains c then (some (c.toLower == 'i'), rest) else (none, cs)
  | [] => (none, cs)

def afterBracket? (cs : List Char) : Option (List Char) :=
  match skipGaps cs with
  | ']' :: rest => some rest
  | _ => none

def readComparison? (name : Except Error (Option (List Char))) (cs : List Char) :
    Option (Except Error Test × List Char) :=
  match readSign? (skipGaps cs) with
  | none =>
    (afterBracket? cs).map fun rest =>
      (do return .ofName (fun name => .attribute name none) (← name), rest)
  | some (mark, rest) =>
    match readValue? (skipGaps rest) with
    | none => none
    | some (value, rest) =>
      let (flag, rest) := readCaseFlag rest
      (afterBracket? rest).map fun rest =>
        (do
          let name ← name
          let value ← value
          let anyCase := flag.getD (name.map lowerName == some "type")
          match name with
          | some name => return comparisonTest (String.ofList name) mark value anyCase
          | none => return comparisonTest "" mark none anyCase, rest)

/-- Read an attribute test behind its opening bracket.  A space before the name is of no account. -/
def readAttribute? (cs : List Char) : Option (Except Error Test × List Char) :=
  let cs := skipGaps cs
  let unspaced (cs : List Char) : Option (Except Error Test × List Char) := do
    let (name, rest) ← readName? cs
    readComparison? name rest
  let afterBar? : Option (List Char) :=
    match cs with
    | '|' :: rest | '*' :: '|' :: rest => some rest
    | _ =>
      match readName? cs with
      | some (_, '|' :: rest) => some rest
      | _ => none
  match afterBar?.bind unspaced with
  | some read => some read
  | none => unspaced cs

/-! ## Names of elements -/

def readType? (cs : List Char) : Option (Token × List Char) :=
  let name? : List Char → Option NameRead
    | '*' :: rest => some (.ok (some ['*']), rest)
    | cs => readName? cs
  let token (space : Option (Except Error (Option (List Char)))) (name : NameRead) :
      Token × List Char :=
    (.ofRead do
      match space with
      | none => return .type (.ofName (.type none) (← name.1))
      | some space =>
        let space ← space
        let name ← name.1
        return .type (.ofName (fun space => .ofName (.type (some space)) name) space), name.2)
  match cs with
  | '|' :: rest => (name? rest).map (token (some (.ok (some []))))
  | _ =>
    match name? cs with
    | none => none
    | some (space, '|' :: rest) =>
      match name? rest with
      | some name => some (token (some space) name)
      | none => some (token none (space, '|' :: rest))
    | some name => some (token none name)

/-! ## Pseudo-classes -/

def textClasses : List String := ["contains", "-soup-contains", "-soup-contains-own"]

/-- Read what stands in the parentheses of a pseudo-class that takes no list of selectors. -/
def readArgument? (place : Nat) (name : String) (cs : List Char) : Option (Token × List Char) :=
  let position (read : Except Error Progression) (fromEnd sameName : Bool) : Token :=
    .ofRead do return .test (.position 0 (← read) fromEnd sameName [])
  if textClasses.contains name then
    match readValues? cs.length cs with
    | none => none
    | some (texts, rest) =>
      (afterClose? rest).map fun rest =>
        (.ofRead do return .contains (name == "-soup-contains-own") (← texts), rest)
  else if name = "nth-child" ∨ name = "nth-last-child" then
    match readProgression? cs with
    | none => none
    | some (progression, rest) =>
      let fromEnd := name == "nth-last-child"
      match afterClose? rest with
      | some rest => some (position progression fromEnd false, rest)
      | none =>
        (afterOf? rest).map fun rest =>
          (.ofRead do return .positionAmong place (← progression) fromEnd, rest)
  else if name = "nth-of-type" ∨ name = "nth-last-of-type" then
    match readProgression? cs with
    | none => none
    | some (progression, rest) =>
      (afterClose? rest).map fun rest =>
        (position progression (name == "nth-last-of-type") true, rest)
  else if name = "lang" then
    match readValues? cs.length cs with
    | none => none
    | some (ranges, rest) =>
      (afterClose? rest).map fun rest =>
        (.ofRead do return .test (.language ((← ranges).map String.ofList)), rest)
  else if name = "dir" then
    let word := (cs.take 3).map Char.toLower
    if word == "ltr".toList || word == "rtl".toList then
      (afterClose? (cs.drop 3)).map fun rest => (.test (.direction (word == "ltr".toList)), rest)
    else none
  else none

def readPseudo? (place : Nat) (cs : List Char) : Option (Token × List Char) :=
  match readName? cs with
  | none =>
    match cs with
    | ':' :: rest => (readName? rest).map fun read => (.fault .unsupported, read.2)
    | _ => none
  | some (.error error, rest) => some (.fault error, rest)
  | some (.ok none, rest) => some (.fault .malformed, rest)
  | some (.ok (some name), rest) =>
    let name := lowerName name
    match rest with
    | '(' :: inside =>
      let inside := skipGaps inside
      some ((readArgument? place name inside).getD (.pseudo name true, inside))
    | _ => some (.pseudo name false, rest)

/-! ## Tokens -/

/-- Read a combinator: a mark with gaps around it, or gaps that hold a space. -/
def readCombinator? (place : Nat) (cs : List Char) : Option (Token × List Char) :=
  let descent := (skipSpacedGaps? cs).map fun rest => (Token.combinator place ' ', rest)
  match skipGaps cs with
  | c :: rest =>
    if ",+>~".toList.contains c then some (.combinator place c, skipGaps rest) else descent
  | [] => descent

def readToken? (cs : List Char) : Option (Token × List Char) :=
  match afterClose? cs with
  | some rest => some (.close, rest)
  | none =>
    let place := cs.length
    let named (test : String → Test) (cs : List Char) : Option (Token × List Char) :=
      (readName? cs).map fun read => (.ofRead do return .test (.ofName test (← read.1)), read.2)
    let token? :=
      match cs with
      | ':' :: rest => readPseudo? place rest
      | '&' :: rest => some (.test .scope, rest)
      | '@' :: 'P' :: rest | '@' :: 'p' :: rest =>
        (readName? rest).map fun read => (.fault .unsupported, read.2)
      | '#' :: rest => named .id rest
      | '.' :: rest => named .word rest
      | '[' :: rest =>
        (readAttribute? rest).map fun read => (.ofRead (read.1.map .test), read.2)
      | _ => readType? cs
    match token? with
    | some token => some token
    | none => readCombinator? place cs

def readTokens (margin : Nat) : (bound : Nat) → List Char → List Token
  | 0, _ => []
  | bound + 1, cs =>
    if cs.length ≤ margin then []
    else
      match readToken? cs with
      | none => [.fault .malformed]
      | some (token, rest) => token :: readTokens margin bound rest

/-- The number of characters at the end of a text that are spaces and comments.  Read backwards, gaps
look the same as forwards. -/
def gapsAtEnd (cs : List Char) : Nat := cs.length - (skipGaps cs.reverse).length

def tokens (written : String) : List Token :=
  let cs := written.toList.map fun c => if c = '\x00' then '\uFFFD' else c
  readTokens (gapsAtEnd cs) cs.length (skipGaps cs)

end MarkupDsl.Selector
