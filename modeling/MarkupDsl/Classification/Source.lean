import MarkupDsl.Classification.Installation
import MarkupDsl.Classification.Validation
import MarkupDsl.Yaml.Document

/-!
# Sources of tables

Tables are read from a file.  A source that is a name leads to the file at this path if one is there,
and otherwise to a file in the directory of presets, provided that the name has no extension.  The
name is a path in this directory too, so it may lead out of it.
-/

namespace MarkupDsl

/-- Where tables are asked for. -/
inductive Source where
  | standard
  | name (written : String)
  | file (path : FilePath)
  deriving DecidableEq, Repr

inductive TablesError where
  /-- A name that no file and no preset has, and the names of the presets there are. -/
  | unknownPreset (name : String) (known : List String)
  | noFile (path : FilePath)
  | malformed (path : FilePath)
  | notMapping (path : FilePath)
  | invalid (path : FilePath) (issues : List Validation.Issue)
  deriving DecidableEq, Repr

namespace TablesError

def message : TablesError → String
  | unknownPreset name known =>
    "Unknown table preset '" ++ name ++ "' (known: " ++ String.intercalate ", " known ++ ")"
  | noFile path => "Tables file not found: " ++ path.written
  | malformed path => "Invalid YAML in " ++ path.written
  | notMapping path => path.written ++ " must contain a mapping of table names."
  | invalid path _ => "Invalid classification tables in " ++ path.written

end TablesError

inductive LoadError where
  | tables (error : TablesError)
  | unreadable (error : Store.ReadError)
  /-- The file holds a value that does not exist. -/
  | noValue (error : Yaml.Error)
  deriving DecidableEq, Repr

namespace Source

/-! ## The directory of presets -/

/-- The path at which a preset is looked for. -/
def presetPath (store : Store) (name : String) : FilePath :=
  store.installation.presets.join (.ofString (Preset.fileName name))

/-- The names of the presets there are, in order: whatever has the ending of their files is one. -/
def knownPresets (store : Store) : List String :=
  (((store.namesIn store.installation.presets).filter fun name =>
    Preset.fileEnding.toList.isSuffixOf name.toList).map FilePath.stem).mergeSort

/-! ## Resolution -/

def ask {α : Type} : Except Store.Cause α → Except LoadError α
  | .ok a => .ok a
  | .error cause => .error (.unreadable (.unreachable cause))

def resolveFile (store : Store) (path : FilePath) : Except LoadError FilePath := do
  if ← ask (store.hasEntry path) then return path
  else throw (.tables (.noFile path))

def resolvePreset (store : Store) (name : String) : Except LoadError FilePath := do
  if ← ask (store.hasEntry (presetPath store name)) then return presetPath store name
  else throw (.tables (.unknownPreset name (knownPresets store)))

def resolveName (store : Store) (name : String) : Except LoadError FilePath := do
  let path := FilePath.ofString name
  if path.hasExtension then resolveFile store path
  else if ← ask (store.hasEntry path) then return path
  else resolvePreset store name

def resolve (store : Store) : Source → Except LoadError FilePath
  | standard => resolveName store Preset.standard.name
  | name written => resolveName store written
  | file path => resolveFile store path

/-! ## Loading -/

/-- The tables that a document describes.  A document that holds nothing describes empty tables. -/
def tablesOf (path : FilePath) (document : String) : Except LoadError Tables :=
  match Yaml.read document with
  | .error (.malformed _) => .error (.tables (.malformed path))
  | .error error => .error (.noValue error)
  | .ok data =>
    let data := if data.isNothing then .mapping [] else data
    match data, Validation.tables data with
    | .mapping _, .ok tables => .ok tables
    | .mapping _, .error issues => .error (.tables (.invalid path issues))
    | _, _ => .error (.tables (.notMapping path))

def loadFile (store : Store) (path : FilePath) : Except LoadError Tables :=
  match store.readText path with
  | .error error => .error (.unreadable error)
  | .ok document => tablesOf path document

/-- The tables of a source. -/
def load (store : Store) (source : Source) : Except LoadError Tables := do
  loadFile store (← resolve store source)

end Source

/-! ## Remembered tables -/

structure Memory where
  loaded : List (String × Tables)

namespace Memory

def empty : Memory := ⟨[]⟩

def key : Option String → String
  | none => Preset.standard.name
  | some name => if name = "" then Preset.standard.name else name

def tables? (memory : Memory) (key : String) : Option Tables :=
  (memory.loaded.find? fun entry => entry.1 = key).map (·.2)

/-- The tables of a name: remembered ones if there are any, and otherwise loaded and, if that
succeeds, remembered. -/
def fetch (memory : Memory) (store : Store) (name : Option String) :
    Except LoadError Tables × Memory :=
  match memory.tables? (key name) with
  | some tables => (.ok tables, memory)
  | none =>
    match Source.load store (.name (key name)) with
    | .ok tables => (.ok tables, ⟨(key name, tables) :: memory.loaded⟩)
    | .error error => (.error error, memory)

end Memory

end MarkupDsl
