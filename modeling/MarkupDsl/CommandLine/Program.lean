import MarkupDsl.Binding
import MarkupDsl.Classification.Payload
import MarkupDsl.CommandLine.Request
import MarkupDsl.Root
import MarkupDsl.Yaml.Printer

/-!
# The program

A run of the program takes its arguments and its surroundings, and has an outcome: how it concludes,
what it prints, what it notes, and what it leaves behind.  A conversion first makes the code, and
delivers it only when nothing can fail any more but the delivery.
-/

namespace MarkupDsl.CommandLine

/-! ## Surroundings and outcomes -/

structure Surroundings where
  input : Content
  store : Store
  programs : Programs

/-- Why a request is not carried out. -/
inductive Obstacle where
  | tables (error : LoadError)
  | noInput (path : FilePath)
  | unreadableInput (error : Store.ReadError)
  | root (input : Option FilePath) (error : RootError)
  | binding (error : Binding.InvalidName)
  /-- A switch was given without a text where only a text will do. -/
  | noText (switch : Switch)
  deriving DecidableEq, Repr

def originName : Option FilePath → String
  | some path => path.written
  | none => "stdin"

/-- The text that accounts for an obstacle.  There is none for an obstacle that the program does not
expect. -/
def Obstacle.message? : Obstacle → Option String
  | tables (.tables error) => some error.message
  | tables (.unreadable _) | tables (.noValue _) => none
  | noInput path => some ("Input HTML not found: " ++ path.written)
  | unreadableInput _ => none
  | root input (.precheck error) =>
    some ("Cannot convert " ++ originName input ++ ": " ++ error.message)
  | root _ (.document _) | root _ (.selector _) | root _ (.undecided _) => none
  | binding error => some error.message
  | noText _ => none

inductive Conclusion where
  | finished
  | misused
  | stopped (obstacle : Obstacle)
  | undelivered (error : DeliveryError)
  deriving DecidableEq, Repr

namespace Conclusion

def status : Conclusion → Nat
  | finished => 0
  | misused => 2
  | stopped _ | undelivered _ => 1

def message? : Conclusion → Option String
  | stopped obstacle => obstacle.message?
  | finished | misused | undelivered _ => none

/-- Whether a run ends in a way that the program does not account for. -/
def isUnaccounted : Conclusion → Bool
  | stopped obstacle => obstacle.message?.isNone
  | undelivered error => error.isMistake
  | finished | misused => false

end Conclusion

structure Outcome where
  conclusion : Conclusion
  printed : String
  noted : String
  store : Store
  runs : List Run
  deriving DecidableEq

namespace Surroundings

def outcome (surroundings : Surroundings) (conclusion : Conclusion) (printed noted : String) :
    Outcome :=
  ⟨conclusion, printed, noted, surroundings.store, []⟩

def tables (surroundings : Surroundings) : Option Value → Except Obstacle Tables
  | none => (Source.load surroundings.store .standard).mapError .tables
  | some (.text name) => (Source.load surroundings.store (.name name)).mapError .tables
  | some .nothing => .error (.noText .tables)

def document (surroundings : Surroundings) : Option FilePath → Except Obstacle String
  | none => (Store.decode surroundings.input).mapError .unreadableInput
  | some path => do
    match surroundings.store.hasEntry path with
    | .error cause => throw (.unreadableInput (.unreachable cause))
    | .ok false => throw (.noInput path)
    | .ok true => (surroundings.store.readText path).mapError .unreadableInput

end Surroundings

/-! ## Notes -/

def note (text : String) : String := "[html2dream] " ++ text ++ "\n"

def notes (warnings : List Warning) : String :=
  String.join (warnings.map fun warning => note warning.message)

/-- The note about a delivery.  Code on the standard output needs none. -/
def deliveryNote (code : String) (destination : Destination) : Option DeliveryError → String
  | none =>
    match destination with
    | .standardOutput => ""
    | .file _ | .clipboard _ =>
      note ("wrote " ++ toString code.length ++ " characters to " ++ destination.label)
  | some error =>
    if error.isMistake then ""
    else
      note ("serialized " ++ toString code.length ++ " characters but delivery to " ++
        destination.label ++ " failed: " ++ error.message)

/-! ## Conversions -/

def Options.root (options : Options) (document : String) : Except Obstacle Node :=
  match options.selector with
  | none => (documentRoot document none).mapError (.root options.input)
  | some (.text selector) => (documentRoot document (some selector)).mapError (.root options.input)
  | some .nothing =>
    match readDocument document with
    | .error error => .error (.root options.input error)
    | .ok _ => .error (.noText .selector)

def Options.conversion (options : Options) (surroundings : Surroundings) :
    Except Obstacle Conversion := do
  let tables ← surroundings.tables options.tables
  let document ← surroundings.document options.input
  let root ← options.root document
  (transpile ⟨tables, options.skipBlankText⟩ (some root)).mapError fun error =>
    .root options.input (.precheck error)

/-- The code that is delivered: that of a conversion, bound to a name if one is asked for. -/
def Options.code (options : Options) (conversion : Conversion) : Except Obstacle String :=
  match options.wrap with
  | none => .ok conversion.text
  | some name => (Binding.render conversion.text name).mapError .binding

def convert (options : Options) (surroundings : Surroundings) : Outcome :=
  match options.conversion surroundings with
  | .error obstacle => surroundings.outcome (.stopped obstacle) "" ""
  | .ok conversion =>
    match options.code conversion with
    | .error obstacle => surroundings.outcome (.stopped obstacle) "" (notes conversion.warnings)
    | .ok code =>
      let delivery := deliver surroundings.store surroundings.programs code options.destination
      let conclusion := match delivery.error with
        | none => .finished
        | some error => .undelivered error
      ⟨conclusion, delivery.printed,
        notes conversion.warnings ++ deliveryNote code options.destination delivery.error,
        delivery.store, delivery.runs⟩

/-! ## Tables -/

def displayTables (source : Option Value) (surroundings : Surroundings) : Outcome :=
  match surroundings.tables source with
  | .error obstacle => surroundings.outcome (.stopped obstacle) "" ""
  | .ok tables => surroundings.outcome .finished (Yaml.print tables.payload) ""

def tablesReport (path : FilePath) (tables : Tables) : String :=
  let modules := match tables.namespaces with
    | [] => "none"
    | namespaces => String.intercalate ", " (namespaces.map fun entry => entry.2.moduleName)
  path.written ++ ": OK (namespaces: " ++ modules ++ ")\n"

def checkTables (path : FilePath) (surroundings : Surroundings) : Outcome :=
  match surroundings.tables (some (.text path.written)) with
  | .error obstacle => surroundings.outcome (.stopped obstacle) "" ""
  | .ok tables => surroundings.outcome .finished (tablesReport path tables) ""

/-! ## Runs -/

def Request.carryOut (surroundings : Surroundings) : Request → Outcome
  | .explanation => surroundings.outcome .finished Grammar.whole.help ""
  | .conversion options => convert options surroundings
  | .display tables => displayTables tables surroundings
  | .check path => checkTables path surroundings

/-- Run the program. -/
def run (arguments : List String) (surroundings : Surroundings) : Outcome :=
  match Request.read arguments with
  | .error (.help grammar) => surroundings.outcome .finished grammar.help ""
  | .error (.misuse grammar misuse) =>
    surroundings.outcome .misused "" (grammar.complaint misuse)
  | .ok request => request.carryOut surroundings

end MarkupDsl.CommandLine
