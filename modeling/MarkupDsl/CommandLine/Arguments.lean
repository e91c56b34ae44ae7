import MarkupDsl.Text.Digits
import MarkupDsl.Text.Quoted

/-!
# Arguments

How a command reads its arguments.  An argument that begins with a hyphen names a switch: by its full
name, by a beginning that no other switch has, or by its short name.  A value may follow an equals
sign or stand in the next argument.  Behind a separator, two hyphens, no switch is recognised.
Arguments that a command has no use for are collected and left to its caller.
-/

namespace MarkupDsl.CommandLine

/-! ## Switches -/

/-- What can be asked for by a switch. -/
inductive Switch where
  | help
  | input
  | output
  | clipboard
  | selector
  | wrap
  | skipBlankText
  | tables
  deriving DecidableEq, Repr

namespace Switch

def names : Switch → List String
  | help => ["-h", "--help"]
  | input => ["--in"]
  | output => ["--out"]
  | clipboard => ["--clipboard"]
  | selector => ["--selector"]
  | wrap => ["--wrap"]
  | skipBlankText => ["--skip-blank-text"]
  | tables => ["--tables"]

def label (switch : Switch) : String := String.intercalate "/" switch.names

def takesValue : Switch → Bool
  | help | clipboard | skipBlankText => false
  | input | output | selector | wrap | tables => true

/-- The switch that cannot be given together with a switch. -/
def rival? : Switch → Option Switch
  | output => some clipboard
  | clipboard => some output
  | help | input | selector | wrap | skipBlankText | tables => none

end Switch

inductive Value where
  /-- The switch takes no value, or its value is the separator, which counts for nothing. -/
  | nothing
  | text (value : String)
  deriving DecidableEq, Repr

/-! ## Grammars -/

inductive Operand where
  | none
  | value (name : String)
  | command (name : String) (choices : List String)
  deriving DecidableEq, Repr

structure Grammar where
  program : String
  usage : String
  explanation : String
  switches : List Switch
  operand : Operand
  deriving DecidableEq, Repr

structure Arguments where
  given : List (Switch × Value)
  operand : Option String
  left : List String
  extras : List String
  deriving DecidableEq, Repr

/-- Why arguments are not accepted. -/
inductive Misuse where
  | ambiguous (written : String) (candidates : List String)
  | valueMissing (switch : Switch)
  | valueIgnored (switch : Switch) (value : String)
  | notTogether (switch rival : Switch)
  | noChoice (operand value : String) (choices : List String)
  | operandMissing (name : String)
  | unrecognized (extras : List String)
  deriving DecidableEq, Repr

def Misuse.message : Misuse → String
  | ambiguous written candidates =>
    "ambiguous option: " ++ written ++ " could match " ++ String.intercalate ", " candidates
  | valueMissing switch => "argument " ++ switch.label ++ ": expected one argument"
  | valueIgnored switch value =>
    "argument " ++ switch.label ++ ": ignored explicit argument " ++ Text.quoted value
  | notTogether switch rival =>
    "argument " ++ switch.label ++ ": not allowed with argument " ++ rival.label
  | noChoice operand value choices =>
    "argument " ++ operand ++ ": invalid choice: " ++ Text.quoted value ++ " (choose from " ++
      String.intercalate ", " (choices.map Text.quoted) ++ ")"
  | operandMissing name => "the following arguments are required: " ++ name
  | unrecognized extras => "unrecognized arguments: " ++ String.intercalate " " extras

/-- Why a command goes no further than its arguments. -/
inductive Halt where
  | help (grammar : Grammar)
  | misuse (grammar : Grammar) (misuse : Misuse)
  deriving DecidableEq, Repr

/-! ## Classification -/

structure Found where
  switch : Switch
  name : String
  value : Option String
  deriving DecidableEq, Repr

inductive Item where
  | argument (value : String)
  | separator
  | switch (written : String) (found : Option Found)
  deriving DecidableEq, Repr

def separator : String := "--"

def cutAtEquals? (written : List Char) : Option (String × String) :=
  match written.dropWhile (· != '=') with
  | [] => none
  | _ :: value => some (String.ofList (written.takeWhile (· != '=')), String.ofList value)

def isNegativeNumber : List Char → Bool
  | '-' :: number =>
    let number := if number.getLast? = some '\n' then number.dropLast else number
    let fraction := number.dropWhile Text.isDecimal
    match fraction with
    | [] => !number.isEmpty
    | '.' :: digits => !digits.isEmpty && digits.all Text.isDecimal
    | _ => false
  | _ => false

namespace Grammar

def named (grammar : Grammar) : List (String × Switch) :=
  grammar.switches.flatMap fun switch => switch.names.map fun name => (name, switch)

/-- The switches that a name may be meant for which is not the name of one. -/
def candidates (grammar : Grammar) (written : String) : List Found :=
  match written.toList with
  | '-' :: '-' :: _ =>
    let (name, value) := match cutAtEquals? written.toList with
      | some (name, value) => (name, some value)
      | none => (written, none)
    grammar.named.filterMap fun entry =>
      if name.toList.isPrefixOf entry.1.toList then some ⟨entry.2, entry.1, value⟩ else none
  | cs =>
    grammar.named.filterMap fun entry =>
      if entry.1.toList = cs.take 2 then some ⟨entry.2, entry.1, some (String.ofList (cs.drop 2))⟩
      else if cs.isPrefixOf entry.1.toList then some ⟨entry.2, entry.1, none⟩
      else none

def classify (grammar : Grammar) (written : String) : Except Misuse Item :=
  let exact (name : String) (value : Option String) : Option Item :=
    (grammar.named.lookup name).map fun switch => .switch written (some ⟨switch, name, value⟩)
  match written.toList with
  | '-' :: rest =>
    match exact written none with
    | some item => .ok item
    | none =>
      if rest.isEmpty then .ok (.argument written)
      else
        match (cutAtEquals? written.toList).bind fun parts => exact parts.1 (some parts.2) with
        | some item => .ok item
        | none =>
          match grammar.candidates written with
          | [found] => .ok (.switch written (some found))
          | [] =>
            if isNegativeNumber written.toList || written.toList.contains ' ' then
              .ok (.argument written)
            else .ok (.switch written none)
          | found => .error (.ambiguous written (found.map (·.name)))
  | _ => .ok (.argument written)

def items (grammar : Grammar) : List String → Except Misuse (List Item)
  | [] => .ok []
  | written :: rest =>
    if written = separator then .ok (.separator :: rest.map .argument)
    else do
      let item ← grammar.classify written
      return item :: (← items grammar rest)

end Grammar

/-! ## Reading -/

def Arguments.take (arguments : Arguments) (switch : Switch) (value : Value) :
    Except Misuse Arguments :=
  let taken : Arguments := { arguments with given := arguments.given ++ [(switch, value)] }
  match switch.rival? with
  | none => .ok taken
  | some rival =>
    if arguments.given.any fun entry => entry.1 = rival then .error (.notTogether switch rival)
    else .ok taken

def Value.ofText (text : String) : Value := if text = separator then .nothing else .text text

/-- Refuse a value in the argument of a switch that takes none.  Behind the short name of the switch
for help, the same short name may be repeated. -/
def refuseValue (found : Found) (value : String) : Except Misuse Unit :=
  if found.name = "-h" ∧ value ≠ "" then
    match value.toList.dropWhile (· == 'h') with
    | [] => .ok ()
    | rest => .error (.valueIgnored found.switch (String.ofList rest))
  else .error (.valueIgnored found.switch value)

namespace Grammar

/-- Whether a command still expects its operand. -/
def awaits (grammar : Grammar) (arguments : Arguments) : Bool :=
  arguments.operand.isNone && grammar.operand != .none

/-- The arguments that items were made of. -/
def Item.written : Item → String
  | .argument value => value
  | .separator => CommandLine.separator
  | .switch written _ => written

def takeOperand (grammar : Grammar) (arguments : Arguments) (value : String) (rest : List Item) :
    Except Misuse Arguments :=
  match grammar.operand with
  | .command name choices =>
    if choices.contains value then
      .ok { arguments with operand := some value, left := rest.map Item.written }
    else .error (.noChoice name value choices)
  | .value _ | .none => .ok { arguments with operand := some value }

def delegates (grammar : Grammar) : Bool :=
  match grammar.operand with
  | .command .. => true
  | .value _ | .none => false

/-- Read items one by one.  The flag tells whether a separator in front belongs to the operand that
was just taken. -/
def readItems (grammar : Grammar) (arguments : Arguments) :
    List Item → Except (Option Misuse) Arguments
  | [] => .ok arguments
  | .switch written none :: rest =>
    readItems grammar { arguments with extras := arguments.extras ++ [written] } rest
  | .switch _ (some found) :: rest =>
    if found.switch.takesValue then
      match found.value, rest with
      | some value, rest => do
        readItems grammar
          (← (arguments.take found.switch (.ofText value)).mapError some) rest
      | none, .argument value :: rest => do
        readItems grammar (← (arguments.take found.switch (.ofText value)).mapError some) rest
      | none, _ => .error (some (.valueMissing found.switch))
    else do
      if let some value := found.value then
        (refuseValue found value).mapError some
      if found.switch = .help then throw none
      readItems grammar (← (arguments.take found.switch .nothing).mapError some) rest
  | .argument value :: rest =>
    if grammar.awaits arguments then do
      let taken ← (grammar.takeOperand arguments value rest).mapError some
      if grammar.delegates then return taken
      match rest with
      | .separator :: rest => readItems grammar taken rest
      | rest => readItems grammar taken rest
    else readItems grammar { arguments with extras := arguments.extras ++ [value] } rest
  | .separator :: rest =>
    if grammar.awaits arguments then
      match rest with
      | .argument value :: rest =>
        if grammar.delegates then do
          grammar.takeOperand arguments separator rest |>.mapError some
        else do
          readItems grammar (← (grammar.takeOperand arguments value rest).mapError some) rest
      | rest =>
        readItems grammar { arguments with extras := arguments.extras ++ [separator] } rest
    else readItems grammar { arguments with extras := arguments.extras ++ [separator] } rest

def read (grammar : Grammar) (written : List String) : Except Halt Arguments := do
  let items ← (grammar.items written).mapError (.misuse grammar)
  let arguments ← (grammar.readItems ⟨[], none, [], []⟩ items).mapError fun
    | none => .help grammar
    | some misuse => .misuse grammar misuse
  match grammar.operand with
  | .value name =>
    if arguments.operand.isNone then throw (.misuse grammar (.operandMissing name))
    else return arguments
  | .none | .command .. => return arguments

end Grammar

def Arguments.value? (arguments : Arguments) (switch : Switch) : Option Value :=
  (arguments.given.reverse.find? fun entry => entry.1 = switch).map (·.2)

def Arguments.has (arguments : Arguments) (switch : Switch) : Bool :=
  (arguments.value? switch).isSome

end MarkupDsl.CommandLine
