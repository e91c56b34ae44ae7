import MarkupDsl.Data
import MarkupDsl.Decimal.Shortest
import MarkupDsl.Text.Quoted
import MarkupDsl.Yaml.Style

/-!
# Writing documents

Plain data is written in block form, two columns deeper for each level; lists that are values of a
mapping are not indented.  Quoted scalars and plain ones are broken at spaces once a line is longer
than eighty columns.
-/

namespace MarkupDsl.Yaml

/-! ## The pen -/

def lineWidth : Nat := 80

/-- A written text, with what decides how it goes on. -/
structure Pen where
  written : List Char
  column : Nat
  /-- Whether the last character separates, so that no space is needed. -/
  spaced : Bool
  /-- Whether only indentation and indicators are on the line so far. -/
  indenting : Bool

namespace Pen

def start : Pen := ⟨[], 0, true, true⟩

def put (pen : Pen) (cs : List Char) : Pen :=
  { pen with written := cs.reverse ++ pen.written, column := pen.column + cs.length }

/-- Write a line end, which a text may hold in several forms. -/
def putBreak (pen : Pen) (c : Char) : Pen := ⟨c :: pen.written, 0, true, true⟩

def indicator (pen : Pen) (cs : List Char) (needsSpace spaces indents : Bool) : Pen :=
  let pen := if pen.spaced || !needsSpace then pen.put cs else pen.put (' ' :: cs)
  { pen with spaced := spaces, indenting := pen.indenting && indents }

/-- Go to the column of an indentation, on a new line if need be. -/
def indent (pen : Pen) (column : Nat) : Pen :=
  let pen :=
    if !pen.indenting || column < pen.column || (column == pen.column && !pen.spaced) then
      pen.putBreak '\n'
    else pen
  if pen.column < column then
    { pen.put (List.replicate (column - pen.column) ' ') with spaced := true }
  else pen

end Pen

/-! ## Scalars -/

/-- A stretch of a text: spaces, line ends, or other characters. -/
inductive Run where
  | spaces (count : Nat)
  | breaks (cs : List Char)
  | word (cs : List Char)
  deriving DecidableEq, Repr

def Run.ofText : List Char → List Run
  | [] => []
  | c :: rest =>
    match ofText rest with
    | .spaces count :: runs =>
      if c == ' ' then .spaces (count + 1) :: runs
      else if isWrittenBreak c then .breaks [c] :: .spaces count :: runs
      else .word [c] :: .spaces count :: runs
    | .breaks cs :: runs =>
      if c == ' ' then .spaces 1 :: .breaks cs :: runs
      else if isWrittenBreak c then .breaks (c :: cs) :: runs
      else .word [c] :: .breaks cs :: runs
    | .word cs :: runs =>
      if c == ' ' then .spaces 1 :: .word cs :: runs
      else if isWrittenBreak c then .breaks [c] :: .word cs :: runs
      else .word (c :: cs) :: runs
    | [] =>
      if c == ' ' then [.spaces 1] else if isWrittenBreak c then [.breaks [c]] else [.word [c]]

namespace Pen

def plainRuns (split : Bool) (column : Nat) : List Run → Pen → Pen
  | [], pen => pen
  | .spaces count :: runs, pen =>
    if count == 1 && lineWidth < pen.column && split then
      plainRuns split column runs { pen.indent column with spaced := false, indenting := false }
    else plainRuns split column runs (pen.put (List.replicate count ' '))
  | .breaks cs :: runs, pen => plainRuns split column runs (pen.put cs)
  | .word cs :: runs, pen => plainRuns split column runs (pen.put cs)

def plain (pen : Pen) (split : Bool) (column : Nat) (cs : List Char) : Pen :=
  let pen := if pen.spaced then pen else pen.put [' ']
  plainRuns split column (Run.ofText cs) { pen with spaced := false, indenting := false }

/-- Write the line ends of a text between single quotes: the first counts twice if it is a line
feed, because a single one would be read as a space. -/
def singleBreaks (pen : Pen) (column : Nat) (cs : List Char) : Pen :=
  let pen := if cs.head? == some '\n' then pen.putBreak '\n' else pen
  (cs.foldl putBreak pen).indent column

/-- Write the stretches of a text between single quotes; `first` marks the beginning of the text. -/
def singleRuns (split : Bool) (column : Nat) (first : Bool) : List Run → Pen → Pen
  | [], pen => pen
  | .spaces count :: runs, pen =>
    if count == 1 && lineWidth < pen.column && split && !first && !runs.isEmpty then
      singleRuns split column false runs (pen.indent column)
    else singleRuns split column false runs (pen.put (List.replicate count ' '))
  | .breaks cs :: runs, pen => singleRuns split column false runs (pen.singleBreaks column cs)
  | .word cs :: runs, pen =>
    singleRuns split column false runs
      (pen.put (cs.flatMap fun c => if c == '\'' then ['\'', '\''] else [c]))

def single (pen : Pen) (split : Bool) (column : Nat) (cs : List Char) : Pen :=
  let pen := pen.indicator ['\''] true false false
  (singleRuns split column true (Run.ofText cs) pen).indicator ['\''] false false false

/-- The escape of a character between double quotes, if it needs one. -/
def escape? (c : Char) : Option (List Char) :=
  let code := c.toNat
  if c != '"' && c != '\\' && c != '\ufeff' && c != '\u2028' && c != '\u2029' &&
      ((0x20 ≤ code && code ≤ 0x7E) || (0xA0 ≤ code && code ≤ 0xFFFD)) then none
  else
    match c with
    | '\x00' => some ['\\', '0']
    | '\x07' => some ['\\', 'a']
    | '\x08' => some ['\\', 'b']
    | '\t' => some ['\\', 't']
    | '\n' => some ['\\', 'n']
    | '\x0b' => some ['\\', 'v']
    | '\x0c' => some ['\\', 'f']
    | '\r' => some ['\\', 'r']
    | '\x1b' => some ['\\', 'e']
    | '"' => some ['\\', '"']
    | '\\' => some ['\\', '\\']
    | '\x85' => some ['\\', 'N']
    | '\u2028' => some ['\\', 'L']
    | '\u2029' => some ['\\', 'P']
    | _ =>
      let digits (width : Nat) : List Char := (Text.hexDigits width code).map Char.toUpper
      if code < 0x100 then some ('\\' :: 'x' :: digits 2)
      else if code < 0x10000 then some ('\\' :: 'u' :: digits 4)
      else some ('\\' :: 'U' :: digits 8)

/-- Write the characters of a text between double quotes.  `pending` are characters that are decided
but not yet written, in reverse, and `index` counts the characters before.  A line is broken after a
backslash; a space that begins the next line is marked by another one. -/
def doubleChars (split : Bool) (column length index : Nat) (pending : List Char) :
    List Char → Pen → Pen
  | [], pen => pen.put pending.reverse
  | c :: rest, pen =>
    let (pen, pending, flushed) :=
      match escape? c with
      | some escape => ((pen.put pending.reverse).put escape, [], true)
      | none => (pen, c :: pending, false)
    let before := if flushed then [] else pending.tail
    let mayBreak := split && 0 < index && index + 1 < length &&
      (if flushed then lineWidth + 1 < pen.column
       else (c == ' ' || before.isEmpty) && lineWidth < pen.column + before.length)
    if mayBreak then
      let next := if flushed then rest.head? else some c
      let pen := (pen.put (before.reverse ++ ['\\'])).indent column
      let pen := { pen with spaced := false, indenting := false }
      let pen := if next == some ' ' then pen.put ['\\'] else pen
      doubleChars split column length (index + 1) (if flushed then [] else [c]) rest pen
    else doubleChars split column length (index + 1) pending rest pen

def double (pen : Pen) (split : Bool) (column : Nat) (cs : List Char) : Pen :=
  let pen := pen.indicator ['"'] true false false
  (doubleChars split column cs.length 0 [] cs pen).indicator ['"'] false false false

def text (pen : Pen) (isKey : Bool) (column : Nat) (cs : List Char) : Pen :=
  match Style.ofText isKey cs with
  | .plain => pen.plain (!isKey) column cs
  | .single => pen.single (!isKey) column cs
  | .double => pen.double (!isKey) column cs

end Pen

/-! ## Collections -/

/-- Whether a key is written in front of its colon: one short line of text. -/
def isSimpleKey : Data → Bool
  | .text key => key.length < 123 && !key.isEmpty && !Style.isMultiline key.toList
  | .list items => items.isEmpty
  | .mapping entries => entries.isEmpty
  | _ => true

/-- Where a value stands: at the top, as the value of a mapping, or in a list. -/
inductive Position where
  | root
  | ofMapping
  | ofList
  deriving DecidableEq, Repr

namespace Pen

mutual

/-- Write a value; `column` is the indentation around it. -/
def data (pen : Pen) (position : Position) (isKey : Bool) (column : Nat) : Data → Pen
  | .text value => pen.text isKey (column + 2) value.toList
  | .null => pen.plain (!isKey) (column + 2) "null".toList
  | .bool value => pen.plain (!isKey) (column + 2) (if value then "true" else "false").toList
  | .int value => pen.plain (!isKey) (column + 2) (toString value).toList
  | .float value => pen.plain (!isKey) (column + 2) (Decimal.shortest value).toList
  | .moment _ written | .other written => pen.plain (!isKey) (column + 2) written.toList
  | .illFormedText | .bytes _ => pen.single (!isKey) (column + 2) []
  | .list [] =>
    (pen.indicator ['['] true true false).indicator [']'] false false false
  | .mapping [] =>
    (pen.indicator ['\x7b'] true true false).indicator ['\x7d'] false false false
  | .list (item :: items) =>
    let inner :=
      if position = .root then 0
      else if position = .ofMapping ∧ !pen.indenting then column
      else column + 2
    pen.items inner (item :: items)
  | .mapping (entry :: entries) =>
    pen.entries (if position = .root then 0 else column + 2) (entry :: entries)

def items (pen : Pen) (column : Nat) : List Data → Pen
  | [] => pen
  | item :: rest =>
    (((pen.indent column).indicator ['-'] true false true).data .ofList false column item).items
      column rest

def entries (pen : Pen) (column : Nat) : List (Data × Data) → Pen
  | [] => pen
  | (key, value) :: rest =>
    let pen := pen.indent column
    let pen :=
      if isSimpleKey key then
        (pen.data .ofMapping true column key).indicator [':'] false false false
      else
        (((pen.indicator ['?'] true false true).data .ofMapping false column key).indent
          column).indicator [':'] true false true
    (pen.data .ofMapping false column value).entries column rest

end

end Pen

def printChars (data : Data) : List Char :=
  ((Pen.start.data .root false 0 data).putBreak '\n').written.reverse

def print (data : Data) : String := String.ofList (printChars data)

end MarkupDsl.Yaml
