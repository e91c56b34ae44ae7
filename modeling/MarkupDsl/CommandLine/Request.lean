import MarkupDsl.Classification.Source
import MarkupDsl.CommandLine.Grammars
import MarkupDsl.Delivery

/-!
# Requests

What the arguments of the program ask for.  The arguments of a command are read by its own grammar;
arguments that no command has a use for are reported together, once all of them are read.
-/

namespace MarkupDsl.CommandLine

structure Options where
  /-- The file that holds the document; without one it comes from the standard input. -/
  input : Option FilePath
  tables : Option Value
  selector : Option Value
  skipBlankText : Bool
  wrap : Option String
  destination : Destination
  deriving DecidableEq, Repr

inductive Request where
  | explanation
  | conversion (options : Options)
  | display (tables : Option Value)
  | check (path : FilePath)
  deriving DecidableEq, Repr

def Arguments.fullText? (arguments : Arguments) (switch : Switch) : Option String :=
  match arguments.value? switch with
  | some (.text text) => if text = "" then none else some text
  | some .nothing | none => none

/-- The destination that arguments name: the clipboard, else a file, else the standard output. -/
def Arguments.destination (arguments : Arguments) : Destination :=
  if arguments.has .clipboard then .clipboard Destination.clipboardCommands
  else
    match arguments.fullText? .output with
    | some path => .file (.ofString path)
    | none => .standardOutput

def Options.ofArguments (arguments : Arguments) : Options where
  input := (arguments.fullText? .input).map .ofString
  tables := arguments.value? .tables
  selector := arguments.value? .selector
  skipBlankText := arguments.has .skipBlankText
  wrap := arguments.fullText? .wrap
  destination := arguments.destination

namespace Request

/-- A request, and the arguments that were of no use for it. -/
abbrev Reading := Except Halt (Request × List String)

def readConversion (written : List String) : Reading := do
  let arguments ← Grammar.convert.read written
  return (.conversion (.ofArguments arguments), arguments.extras)

def readDisplay (written : List String) : Reading := do
  let arguments ← Grammar.showTables.read written
  return (.display (arguments.value? .tables), arguments.extras)

def readCheck (written : List String) : Reading := do
  let arguments ← Grammar.checkTables.read written
  return (.check (.ofString (arguments.operand.getD "")), arguments.extras)

def behind (extras : List String) (reading : Reading) : Reading :=
  reading.map fun (request, further) => (request, extras ++ further)

def readTables (written : List String) : Reading := do
  let arguments ← Grammar.tables.read written
  match arguments.operand with
  | none => return (.explanation, arguments.extras)
  | some "show" => behind arguments.extras (readDisplay arguments.left)
  | some _ => behind arguments.extras (readCheck arguments.left)

def readAll (written : List String) : Reading := do
  let arguments ← Grammar.whole.read written
  match arguments.operand with
  | none => return (.explanation, arguments.extras)
  | some "convert" => behind arguments.extras (readConversion arguments.left)
  | some _ => behind arguments.extras (readTables arguments.left)

def read (written : List String) : Except Halt Request := do
  match ← readAll written with
  | (request, []) => return request
  | (_, extras) => throw (.misuse Grammar.whole (.unrecognized extras))

end Request

end MarkupDsl.CommandLine
