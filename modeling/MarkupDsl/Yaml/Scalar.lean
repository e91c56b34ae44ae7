import MarkupDsl.Yaml.Cursor
import MarkupDsl.Yaml.Error

/-!
# Scalars

The reading of the values that a document spells out: between quotes, as indented blocks, and plain.
Lines of a value are folded: a single line end between two lines counts as a space, and further ones
are kept.
-/

namespace MarkupDsl.Yaml

structure ScalarText where
  chars : List Char
  /-- An escape named half a surrogate pair, so that the value is no sequence of characters. -/
  illFormed : Bool
  deriving DecidableEq, Repr

namespace ScalarText

def plain (chars : List Char) : ScalarText := ⟨chars, false⟩

def append (a b : ScalarText) : ScalarText := ⟨a.chars ++ b.chars, a.illFormed || b.illFormed⟩

instance : Append ScalarText := ⟨append⟩

end ScalarText

def foldBreaks (first : Char) (breaks : List Char) : List Char :=
  if first != '\n' then first :: breaks
  else if breaks.isEmpty then [' ']
  else breaks

/-! ## Quoted scalars -/

def simpleEscape? : Char → Option Char
  | '0' => some '\x00'
  | 'a' => some '\x07'
  | 'b' => some '\x08'
  | 't' => some '\t'
  | '\t' => some '\t'
  | 'n' => some '\n'
  | 'v' => some '\x0b'
  | 'f' => some '\x0c'
  | 'r' => some '\r'
  | 'e' => some '\x1b'
  | ' ' => some ' '
  | '"' => some '"'
  | '\\' => some '\\'
  | '/' => some '/'
  | 'N' => some '\x85'
  | '_' => some '\xa0'
  | 'L' => some '\u2028'
  | 'P' => some '\u2029'
  | _ => none

def escapeWidth? : Char → Option Nat
  | 'x' => some 2
  | 'u' => some 4
  | 'U' => some 8
  | _ => none

def escapedCode (code : Nat) : Except Error ScalarText :=
  if 0x80000000 ≤ code then .error .characterTooLarge
  else if 0x110000 ≤ code then .error .noSuchCharacter
  else if 0xD800 ≤ code ∧ code ≤ 0xDFFF then .ok ⟨[Char.ofNat 0xFFFD], true⟩
  else .ok (.plain [Char.ofNat code])

/-- The empty lines inside a quoted scalar, with the blanks before and after them dropped. -/
def quotedBreaks (cursor : Cursor) : (fuel : Nat) → Except Error (List Char × Cursor)
  | 0 => .ok ([], cursor)
  | fuel + 1 =>
    if cursor.atSeparator then .error (.malformed "no document marker inside quotes")
    else
      let after := cursor.skipWhile fun c => c == ' ' || c == '\t'
      match after.lineBreak? with
      | none => .ok ([], after)
      | some (c, after) => do
        let (breaks, last) ← quotedBreaks after fuel
        return (c :: breaks, last)

def quotedSpaces (cursor : Cursor) : Except Error (List Char × Cursor) :=
  let (blanks, after) := cursor.span fun c => c == ' ' || c == '\t'
  if after.rest.isEmpty then .error (.malformed "quotes are closed")
  else
    match after.lineBreak? with
    | none => .ok (blanks, after)
    | some (c, after) => do
      let (breaks, last) ← quotedBreaks after after.rest.length
      return (foldBreaks c breaks, last)

def escape (cursor : Cursor) : Except Error (ScalarText × Cursor) :=
  match cursor.here with
  | none => .error (.malformed "an escape is complete")
  | some c =>
    match simpleEscape? c, escapeWidth? c with
    | some meant, _ => .ok (.plain [meant], cursor.next)
    | none, some width =>
      let digits := cursor.next.rest.take width
      if digits.length = width ∧ digits.all Text.isHexDigit then do
        return (← escapedCode (Text.digitsValue 16 digits), cursor.next.skip width)
      else .error (.malformed "a numeric escape has all its digits")
    | none, none =>
      match cursor.lineBreak? with
      | none => .error (.malformed "an escape is known")
      | some (_, after) => do
        let (breaks, last) ← quotedBreaks after after.rest.length
        return (.plain breaks, last)

def quotedWord (double : Bool) (cursor : Cursor) : (fuel : Nat) → Except Error (ScalarText × Cursor)
  | 0 => .ok (.plain [], cursor)
  | fuel + 1 =>
    let (taken, after) := cursor.span fun c =>
      !(c == '\'' || c == '"' || c == '\\' || c == ' ' || c == '\t' || isBreak c)
    let continued (piece : ScalarText) (next : Cursor) : Except Error (ScalarText × Cursor) := do
      let (more, last) ← quotedWord double next fuel
      return (.plain taken ++ piece ++ more, last)
    match double, after.rest with
    | false, '\'' :: '\'' :: _ => continued (.plain ['\'']) (after.skip 2)
    | true, '\'' :: _ => continued (.plain ['\'']) after.next
    | false, '"' :: _ => continued (.plain ['"']) after.next
    | false, '\\' :: _ => continued (.plain ['\\']) after.next
    | true, '\\' :: _ => do
      let (piece, next) ← escape after.next
      continued piece next
    | _, _ => .ok (.plain taken, after)

def quotedRest (double : Bool) (cursor : Cursor) : (fuel : Nat) → Except Error (ScalarText × Cursor)
  | 0 => .error (.malformed "quotes are closed")
  | fuel + 1 =>
    if cursor.here == some (if double then '"' else '\'') then .ok (.plain [], cursor.next)
    else do
      let (spaces, next) ← quotedSpaces cursor
      let (word, next) ← quotedWord double next (next.rest.length + 1)
      let (more, last) ← quotedRest double next fuel
      return (.plain spaces ++ word ++ more, last)

def quotedScalar (double : Bool) (cursor : Cursor) : Except Error (ScalarText × Cursor) := do
  let (word, next) ← quotedWord double cursor.next (cursor.rest.length + 1)
  let (more, last) ← quotedRest double next (next.rest.length + 1)
  return (word ++ more, last)

/-! ## Block scalars -/

/-- What becomes of the line ends at the end of a block scalar. -/
inductive Chomping where
  | strip
  | clip
  | keep
  deriving DecidableEq, Repr

def chomping? : Option Char → Option Chomping
  | some '+' => some .keep
  | some '-' => some .strip
  | _ => none

/-- The indentation that an indicator asks for; zero is refused. -/
def increment? (c : Option Char) : Except Error (Option Nat) :=
  match c with
  | some c =>
    if c == '0' then .error (.malformed "an indentation is at least one")
    else if c.isDigit then .ok (some (Text.digitValue c))
    else .ok none
  | none => .ok none

/-- The indicators of a block scalar, in either order; the cursor stands after its sign. -/
def blockIndicators (cursor : Cursor) : Except Error ((Chomping × Option Nat) × Cursor) := do
  let ((chomping, increment), after) ←
    match chomping? cursor.here with
    | some chomping =>
      match ← increment? cursor.next.here with
      | some increment => pure ((chomping, some increment), cursor.skip 2)
      | none => pure ((chomping, none), cursor.next)
    | none =>
      match ← increment? cursor.here with
      | some increment =>
        match chomping? cursor.next.here with
        | some chomping => pure ((chomping, some increment), cursor.skip 2)
        | none => pure ((Chomping.clip, some increment), cursor.next)
      | none => pure ((Chomping.clip, none), cursor)
  if endsWord after.here then return ((chomping, increment), after)
  else throw (.malformed "indicators of a block end with their word")

/-- The cursor after the rest of a line that holds nothing but a comment. -/
def skipRestOfLine (cursor : Cursor) : Except Error Cursor :=
  let after := cursor.skipSpaces.skipComment
  if endsLine after.here then .ok after.skipLineBreak
  else .error (.malformed "the line ends here")

def skipIndent (indent : Nat) (cursor : Cursor) : (fuel : Nat) → Cursor
  | 0 => cursor
  | fuel + 1 =>
    if cursor.column < indent && cursor.here == some ' ' then skipIndent indent cursor.next fuel
    else cursor

def blockIndentation (cursor : Cursor) (largest : Nat) : (fuel : Nat) → (List Char × Nat) × Cursor
  | 0 => (([], largest), cursor)
  | fuel + 1 =>
    match cursor.lineBreak? with
    | some (c, after) =>
      let ((breaks, indent), last) := blockIndentation after largest fuel
      ((c :: breaks, indent), last)
    | none =>
      if cursor.here == some ' ' then
        blockIndentation cursor.next (max largest cursor.next.column) fuel
      else (([], largest), cursor)

/-- The empty lines inside a block; the cursor stands after a line end. -/
def blockBreaks (indent : Nat) (cursor : Cursor) : (fuel : Nat) → List Char × Cursor
  | 0 => ([], cursor)
  | fuel + 1 =>
    let after := skipIndent indent cursor cursor.rest.length
    match after.lineBreak? with
    | none => ([], after)
    | some (c, after) =>
      let (breaks, last) := blockBreaks indent after fuel
      (c :: breaks, last)

def atBlockLine (indent : Nat) (cursor : Cursor) : Bool :=
  cursor.column == indent && !cursor.rest.isEmpty

def isBlankHere : Option Char → Bool
  | some c => c == ' ' || c == '\t'
  | none => false

def blockLines (folded : Bool) (indent : Nat) (breaks : List Char) (cursor : Cursor) :
    (fuel : Nat) → (List Char × List Char × List Char) × Cursor
  | 0 => (([], [], breaks), cursor)
  | fuel + 1 =>
    if !atBlockLine indent cursor then (([], [], breaks), cursor)
    else
      let (line, lineEnd) := cursor.span fun c => !isBreak c
      let (ending, after) :=
        match lineEnd.lineBreak? with
        | some (c, after) => ([c], after)
        | none => ([], lineEnd)
      let (later, next) := blockBreaks indent after (after.rest.length + 1)
      if atBlockLine indent next then
        let joint :=
          if folded && ending == ['\n'] && !isBlankHere cursor.here && !isBlankHere next.here then
            if later.isEmpty then [' '] else []
          else ending
        let ((more, tail), last) := blockLines folded indent later next fuel
        ((breaks ++ line ++ joint ++ more, tail), last)
      else ((breaks ++ line, ending, later), next)

/-- A block scalar; the cursor stands at its sign, and `parent` is the indentation around it. -/
def blockScalar (folded : Bool) (parent : Int) (cursor : Cursor) : Except Error (ScalarText × Cursor) := do
  let ((chomping, increment), after) ← blockIndicators cursor.next
  let body ← skipRestOfLine after
  let least := (max (parent + 1) 1).toNat
  let fuel := body.rest.length + 1
  let (indent, breaks, first) :=
    match increment with
    | none =>
      let ((breaks, largest), first) := blockIndentation body 0 fuel
      (max least largest, breaks, first)
    | some increment =>
      let indent := least + increment - 1
      let (breaks, first) := blockBreaks indent body fuel
      (indent, breaks, first)
  let ((text, ending, later), last) := blockLines folded indent breaks first fuel
  return (.plain (text ++
    match chomping with
    | .strip => []
    | .clip => ending
    | .keep => ending ++ later), last)

/-! ## Plain scalars -/

def endsPlain (inFlow : Bool) : List Char → Bool
  | [] => true
  | c :: rest =>
    endsToken (some c) ||
    (c == ':' && (endsToken rest.head? ||
      (inFlow && (rest.head?.map fun d => ",[]\x7b\x7d".toList.contains d).getD false))) ||
    (inFlow && ",?[]\x7b\x7d".toList.contains c)

def plainLength (inFlow : Bool) : List Char → Nat
  | [] => 0
  | c :: rest => if endsPlain inFlow (c :: rest) then 0 else plainLength inFlow rest + 1

/-- The spaces and line ends after the first line end inside a plain scalar; none if a document
marker follows. -/
def plainBreaks (cursor : Cursor) : (fuel : Nat) → Option (List Char) × Cursor
  | 0 => (some [], cursor)
  | fuel + 1 =>
    match cursor.lineBreak? with
    | some (c, after) =>
      if after.atSeparator then (none, after)
      else
        let (breaks, last) := plainBreaks after fuel
        (breaks.map (c :: ·), last)
    | none =>
      if cursor.here == some ' ' then plainBreaks cursor.next fuel else (some [], cursor)

/-- What separates two words of a plain scalar, the cursor after it, and whether a line ended. -/
def plainSpaces (cursor : Cursor) : List Char × Cursor × Bool :=
  let (blanks, after) := cursor.span (· == ' ')
  match after.lineBreak? with
  | none => (blanks, after, false)
  | some (c, after) =>
    if after.atSeparator then ([], after, true)
    else
      match plainBreaks after (after.rest.length + 1) with
      | (none, last) => ([], last, true)
      | (some breaks, last) => (foldBreaks c breaks, last, true)

def plainWords (inFlow : Bool) (indent : Int) (spaces : List Char) (newLine : Bool)
    (cursor : Cursor) : (fuel : Nat) → (List Char × Bool) × Cursor
  | 0 => (([], newLine), cursor)
  | fuel + 1 =>
    let length := plainLength inFlow cursor.rest
    if cursor.here == some '#' || length == 0 then (([], newLine), cursor)
    else
      let word := cursor.rest.take length
      let (later, next, ended) := plainSpaces (cursor.skip length)
      if later.isEmpty || next.here == some '#' ||
          (!inFlow && decide ((next.column : Int) < indent)) then
        ((spaces ++ word, ended), next)
      else
        let ((more, newLine), last) := plainWords inFlow indent later ended next fuel
        ((spaces ++ word ++ more, newLine), last)

def plainScalar (inFlow : Bool) (parent : Int) (cursor : Cursor) : (List Char × Bool) × Cursor :=
  plainWords inFlow (parent + 1) [] false cursor (cursor.rest.length + 1)

end MarkupDsl.Yaml
