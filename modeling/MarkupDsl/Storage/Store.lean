import MarkupDsl.Storage.FilePath
import MarkupDsl.Text.Newline
import MarkupDsl.Text.Quoted

/-!
# Stores

A store holds the files and directories that a program can reach.  Every entry is known by its
place, the list of names that leads to it from the root.  A path is followed part by part, and every
part is looked for in a directory.  Operations that change the store return it as they leave it, also
when they fail.

What comes with the program stands in every store from the beginning, as long as nothing else is put in
its place.
-/

namespace MarkupDsl

inductive Content where
  | text (data : String)
  | illFormed (bytes : List UInt8)
  deriving DecidableEq, Repr

inductive Entry where
  | file (content : Content)
  | directory
  deriving DecidableEq, Repr

/-- The names that lead from the root to an entry. -/
abbrev Place := List String

/-- How the program is installed: the directory of its presets, and the entries that come with it.  A
store that is written down without an installation has the one that is in scope. -/
class Installation where
  presets : FilePath
  entries : List (Place × Entry)
  deriving DecidableEq

/-- The files and directories, and the place at which paths start. -/
structure Store where
  entries : List (Place × Entry)
  home : Place
  [installation : Installation]
  deriving DecidableEq

namespace Store

/-! ## Failures -/

inductive Cause where
  | missing
  | alreadyThere
  | notDirectory
  | isDirectory
  | nameTooLong
  /-- The path holds a null character, which no path can. -/
  | nullCharacter
  deriving DecidableEq, Repr

def Cause.text : Cause → String
  | missing => "[Errno 2] No such file or directory"
  | alreadyThere => "[Errno 17] File exists"
  | notDirectory => "[Errno 20] Not a directory"
  | isDirectory => "[Errno 21] Is a directory"
  | nameTooLong => "[Errno 36] File name too long"
  | nullCharacter => "embedded null byte"

structure Failure where
  cause : Cause
  path : FilePath
  deriving DecidableEq, Repr

def Failure.message (failure : Failure) : String :=
  failure.cause.text ++ ": " ++ Text.quoted failure.path.written

/-! ## Places -/

/-- The entries that may stand in a store; of several at one place the first one does. -/
def allEntries (store : Store) : List (Place × Entry) :=
  store.entries ++ store.installation.entries

def entry? (store : Store) (place : Place) : Option Entry :=
  if place = [] then some .directory
  else (store.allEntries.find? fun entry => entry.1 = place).map (·.2)

def put (place : Place) (entry : Entry) (store : Store) : Store :=
  { store with entries := (place, entry) :: store.entries.filter fun other => other.1 ≠ place }

/-- Follow parts from a place.  Every part is looked for in a directory; the entry that the last
part leads to need not exist. -/
def follow (store : Store) (place : Place) : List String → Except Cause Place
  | [] => .ok place
  | part :: rest =>
    match store.entry? place with
    | none => .error .missing
    | some (.file _) => .error .notDirectory
    | some .directory =>
      if 255 < part.utf8ByteSize then .error .nameTooLong
      else follow store (if part = ".." then place.dropLast else place ++ [part]) rest

def place (store : Store) (path : FilePath) : Except Cause Place :=
  if path.written.toList.contains '\x00' then .error .nullCharacter
  else if 4096 ≤ path.written.utf8ByteSize then .error .nameTooLong
  else store.follow (if path.anchor = .home then store.home else []) path.parts

def entryAt (store : Store) (path : FilePath) : Except Cause Entry := do
  match store.entry? (← store.place path) with
  | none => throw .missing
  | some entry => return entry

/-- Whether a path leads to an entry.  A name that is too long is no answer but a failure. -/
def hasEntry (store : Store) (path : FilePath) : Except Cause Bool :=
  match store.entryAt path with
  | .ok _ => .ok true
  | .error .nameTooLong => .error .nameTooLong
  | .error _ => .ok false

def hasDirectory (store : Store) (path : FilePath) : Bool :=
  match store.entryAt path with
  | .ok .directory => true
  | _ => false

def namesIn (store : Store) (path : FilePath) : List String :=
  match store.place path with
  | .error _ => []
  | .ok place =>
    if store.entry? place = some .directory then
      (store.allEntries.filterMap fun entry =>
        if entry.1.dropLast = place then entry.1.getLast? else none).eraseDups
    else []

/-! ## Reading -/

/-- Why a text cannot be read. -/
inductive ReadError where
  | unreachable (cause : Cause)
  | illFormed
  deriving DecidableEq, Repr

def decode : Content → Except ReadError String
  | .illFormed _ => .error .illFormed
  | .text data => .ok (String.ofList (Text.unifyLineEnds data.toList))

def readText (store : Store) (path : FilePath) : Except ReadError String :=
  match store.entryAt path with
  | .error cause => .error (.unreachable cause)
  | .ok .directory => .error (.unreachable .isDirectory)
  | .ok (.file content) => decode content

/-! ## Writing -/

def makeDirectory (store : Store) (path : FilePath) : Except Cause Store := do
  let place ← store.place path
  match store.entry? place with
  | some _ => throw .alreadyThere
  | none => return store.put place .directory

/-- Make a directory that may be there already. -/
def ensureDirectory (store : Store) (path : FilePath) : Store × Option Failure :=
  match store.makeDirectory path with
  | .ok store => (store, none)
  | .error .missing => (store, some ⟨.missing, path⟩)
  | .error cause => (store, if store.hasDirectory path then none else some ⟨cause, path⟩)

/-- Make a directory that may be there already, and before it the directories that lead to it. -/
def ensureDirectories (store : Store) (path : FilePath) : Store × Option Failure :=
  match store.makeDirectory path with
  | .error .missing =>
    if path.parts = [] then (store, some ⟨.missing, path⟩)
    else
      match ensureDirectories store path.parent with
      | (store, none) => store.ensureDirectory path
      | (store, some failure) => (store, some failure)
  | _ => store.ensureDirectory path
termination_by path.parts.length
decreasing_by
  cases h : path.parts with
  | nil => contradiction
  | cons part rest => simp [FilePath.parent, h]

def writeFile (store : Store) (path : FilePath) (content : Content) : Except Cause Store := do
  let place ← store.place path
  match store.entry? place with
  | some .directory => throw .isDirectory
  | _ => return store.put place (.file content)

def save (store : Store) (path : FilePath) (content : Content) : Store × Option Failure :=
  match store.ensureDirectories path.parent with
  | (store, some failure) => (store, some failure)
  | (store, none) =>
    match store.writeFile path content with
    | .ok store => (store, none)
    | .error cause => (store, some ⟨cause, path⟩)

/-! ## Comparison -/

/-- The entries that stand below the home of `after` and did not stand there before, each with the
path that leads to it from the home. -/
def changes (before after : Store) : List (FilePath × Entry) :=
  after.entries.filterMap fun entry =>
    match entry.1.drop after.home.length with
    | [] => none
    | parts =>
      if after.home.isPrefixOf entry.1 ∧ before.entry? entry.1 ≠ some entry.2 then
        some (⟨.home, parts⟩, entry.2)
      else none

end Store

end MarkupDsl
