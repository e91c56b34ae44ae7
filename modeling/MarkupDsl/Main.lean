import MarkupDsl.CommandLine.Program

/-!
# Command line

The outer layer of the program.  It looks up what stands at the paths that a request mentions, runs
the program on that, and brings about what the outcome says.  Programs cannot be started from here,
so none of them counts as installed.
-/

namespace MarkupDsl.CommandLine

/-! ## Surroundings -/

def tablesPaths (store : Store) : Option Value → List FilePath
  | some (.text name) => [.ofString name, Source.presetPath store name]
  | some .nothing | none => [.ofString Preset.standard.name]

def Request.paths (store : Store) : Request → List FilePath
  | .explanation => []
  | .conversion options =>
    let output := match options.destination with
      | .file path => [path]
      | .standardOutput | .clipboard _ => []
    tablesPaths store options.tables ++ options.input.toList ++ output
  | .display tables => tablesPaths store tables
  | .check path => tablesPaths store (some (.text path.written))

def placesThrough (place : Place) : List String → List Place
  | [] => []
  | part :: rest =>
    let next := if part = ".." then place.dropLast else place ++ [part]
    next :: placesThrough next rest

def writtenPlace (place : Place) : String := "/" ++ String.intercalate "/" place

def contentOfBytes (bytes : ByteArray) : Content :=
  match String.fromUTF8? bytes with
  | some text => .text text
  | none => .illFormed bytes.toList

def lookUp (place : Place) : IO (Option Entry) := do
  match ← (IO.FS.readBinFile (writtenPlace place)).toBaseIO with
  | .ok bytes => return some (.file (contentOfBytes bytes))
  | .error (.inappropriateType ..) => return some .directory
  | .error _ => return none

def lookUpPath (store : Store) (path : FilePath) : IO Store := do
  let start := if path.anchor = .home then store.home else []
  (placesThrough start path.parts).foldlM (fun store place => do
    if (store.entry? place).isSome then return store
    if store.entry? place.dropLast ≠ some .directory then return store
    match ← lookUp place with
    | some entry => return store.put place entry
    | none => return store) store

/-- A store that holds nothing but the directories that lead to its home. -/
def bareStore (home : Place) : Store :=
  ⟨(placesThrough [] home).map fun place => (place, .directory), home⟩

def Request.readsInput : Request → Bool
  | .conversion options => options.input.isNone
  | .explanation | .display _ | .check _ => false

def Request.surroundings (request : Request) : IO Surroundings := do
  let home := FilePath.ofString (toString (← IO.currentDir))
  let bare := bareStore home.parts
  let store ← (request.paths bare).foldlM lookUpPath bare
  let input ←
    if request.readsInput then contentOfBytes <$> (← IO.getStdin).readBinToEnd
    else pure (.text "")
  return ⟨input, store, []⟩

/-! ## Outcomes -/

def bringAbout (place : Place) : Entry → IO Unit
  | .directory => IO.FS.createDirAll (writtenPlace place)
  | .file (.text data) => IO.FS.writeFile (writtenPlace place) data
  | .file (.illFormed bytes) => IO.FS.writeBinFile (writtenPlace place) ⟨bytes.toArray⟩

/-- Bring about the entries of a store that are not in another one, the oldest first. -/
def bringAboutChanges (before after : Store) : IO Unit :=
  for (place, entry) in after.entries.reverse do
    if before.entry? place ≠ some entry then bringAbout place entry

def farewell (conclusion : Conclusion) : String :=
  match conclusion.message? with
  | some message => message ++ "\n"
  | none => if conclusion.isUnaccounted then note "the request cannot be carried out" else ""

end MarkupDsl.CommandLine

open MarkupDsl.CommandLine in
def main (arguments : List String) : IO UInt32 := do
  let surroundings ← match Request.read arguments with
    | .ok request => request.surroundings
    | .error _ => pure ⟨.text "", bareStore [], []⟩
  let outcome := run arguments surroundings
  bringAboutChanges surroundings.store outcome.store
  (← IO.getStdout).putStr outcome.printed
  (← IO.getStderr).putStr (outcome.noted ++ farewell outcome.conclusion)
  return UInt32.ofNat outcome.conclusion.status
