import MarkupDsl.Storage.Store

/-!
# Delivery

Finished code is delivered to one destination: standard output, a file, or the clipboard.  The
clipboard is reached through the first command of a list whose program is installed; the program gets
the code as its input.
-/

namespace MarkupDsl

/-! ## Destinations -/

abbrev Command := List String

inductive Destination where
  | standardOutput
  | file (path : FilePath)
  | clipboard (commands : List Command)
  deriving DecidableEq, Repr

namespace Destination

def clipboardCommands : List Command := [
  ["pbcopy"],
  ["wl-copy"],
  ["xclip", "-selection", "clipboard"],
  ["xsel", "--clipboard", "--input"]]

def label : Destination → String
  | standardOutput => "stdout"
  | file path => path.written
  | clipboard _ => "clipboard"

end Destination

/-! ## Programs -/

/-- How a program ends once it is started. -/
inductive Conduct where
  | exits (status : Nat)
  | terminated
  | notExecutable
  deriving DecidableEq, Repr

abbrev Programs := List (String × Conduct)

def Programs.conduct? (programs : Programs) (name : String) : Option Conduct :=
  (programs.find? fun program => program.1 = name).map (·.2)

structure Run where
  program : String
  arguments : List String
  input : String
  deriving DecidableEq, Repr

/-! ## Failures -/

/-- Why a command does not succeed. -/
inductive Breakdown where
  | exit (status : Nat)
  | terminated
  | notExecutable
  deriving DecidableEq, Repr

inductive DeliveryError where
  | notWritten (path : FilePath) (failure : Store.Failure)
  | noCommand (tried : List Command)
  | commandFailed (program : String) (arguments : List String) (breakdown : Breakdown)
  /-- A command in the list does not even name a program. -/
  | namelessCommand
  /-- An argument of a command holds a character that no argument can hold. -/
  | nullCharacter (program : String)
  deriving DecidableEq, Repr

def quotedCommand (command : Command) : String :=
  "[" ++ String.intercalate ", " (command.map Text.quoted) ++ "]"

def Breakdown.message (program : String) (arguments : List String) : Breakdown → String
  | exit status =>
    "Command '" ++ quotedCommand (program :: arguments) ++ "' returned non-zero exit status " ++
      toString status ++ "."
  | terminated =>
    "Command '" ++ quotedCommand (program :: arguments) ++ "' died with <Signals.SIGTERM: 15>."
  | notExecutable => "[Errno 8] Exec format error: " ++ Text.quoted program

def DeliveryError.message : DeliveryError → String
  | notWritten path failure => "could not write " ++ path.written ++ ": " ++ failure.message
  | noCommand tried =>
    "no clipboard command found (tried " ++
      String.intercalate ", " (tried.map fun command => command.headD "") ++ ")"
  | commandFailed program arguments breakdown =>
    "clipboard command " ++ program ++ " failed: " ++ breakdown.message program arguments
  | namelessCommand => "a clipboard command names no program"
  | nullCharacter program => "an argument of " ++ program ++ " holds a null character"

/-- Whether a delivery was asked for something that is not one: a path that no file can have, a
command without a program, or an argument that none can be given.  All other failures are due to what
is there. -/
def DeliveryError.isMistake : DeliveryError → Bool
  | notWritten _ failure => failure.cause = .nullCharacter
  | namelessCommand | nullCharacter _ => true
  | noCommand _ | commandFailed .. => false

/-! ## Delivering -/

structure Delivery where
  store : Store
  printed : String
  runs : List Run
  error : Option DeliveryError
  deriving DecidableEq

/-- A text with a line feed at its end, added if there is none. -/
def withFinalLineFeed (text : String) : String :=
  if text.toList.getLast? = some '\n' then text else text ++ "\n"

def firstInstalled (programs : Programs) : List Command →
    Except DeliveryError (Option (String × List String × Conduct))
  | [] => .ok none
  | [] :: _ => .error .namelessCommand
  | (program :: arguments) :: rest =>
    match programs.conduct? program with
    | some conduct => .ok (some (program, arguments, conduct))
    | none => firstInstalled programs rest

def runProgram (store : Store) (program : String) (arguments : List String) (input : String) :
    Conduct → Delivery
  | .exits 0 => ⟨store, "", [⟨program, arguments, input⟩], none⟩
  | .exits status =>
    ⟨store, "", [⟨program, arguments, input⟩],
      some (.commandFailed program arguments (.exit status))⟩
  | .terminated =>
    ⟨store, "", [⟨program, arguments, input⟩],
      some (.commandFailed program arguments .terminated)⟩
  | .notExecutable =>
    ⟨store, "", [], some (.commandFailed program arguments .notExecutable)⟩

/-- Deliver a text. -/
def deliver (store : Store) (programs : Programs) (text : String) : Destination → Delivery
  | .standardOutput => ⟨store, withFinalLineFeed text, [], none⟩
  | .file path =>
    match store.save path (.text text) with
    | (store, none) => ⟨store, "", [], none⟩
    | (store, some failure) => ⟨store, "", [], some (.notWritten path failure)⟩
  | .clipboard commands =>
    match firstInstalled programs commands with
    | .error error => ⟨store, "", [], some error⟩
    | .ok none => ⟨store, "", [], some (.noCommand commands)⟩
    | .ok (some (program, arguments, conduct)) =>
      if arguments.any fun argument => argument.toList.contains '\x00' then
        ⟨store, "", [], some (.nullCharacter program)⟩
      else runProgram store program arguments text conduct

end MarkupDsl
