import MarkupDsl.Text.Split

/-!
# File paths

A path is the list of its parts, with an anchor that says where it starts.  Empty parts and single
dots are dropped when a path is read; a double dot stays, because what it leads to depends on the
store.
-/

namespace MarkupDsl

inductive Anchor where
  | home
  | root
  | doubleRoot
  deriving DecidableEq, Repr

/-- A path to a file or directory. -/
structure FilePath where
  anchor : Anchor
  parts : List String
  deriving DecidableEq, Repr

namespace FilePath

/-- The anchor of a written path.  Three slashes and more count as one. -/
def anchorOf : List Char → Anchor
  | '/' :: '/' :: '/' :: _ => .root
  | '/' :: '/' :: _ => .doubleRoot
  | '/' :: _ => .root
  | _ => .home

def ofString (written : String) : FilePath :=
  ⟨anchorOf written.toList,
    ((Text.splitAtChar '/' written.toList).map String.ofList).filter fun part =>
      part != "" && part != "."⟩

def anchorText : Anchor → String
  | .home => ""
  | .root => "/"
  | .doubleRoot => "//"

def written (path : FilePath) : String :=
  if path.anchor = .home ∧ path.parts = [] then "."
  else anchorText path.anchor ++ String.intercalate "/" path.parts

def parent (path : FilePath) : FilePath := ⟨path.anchor, path.parts.dropLast⟩

/-- A path that starts where another one leads.  A path with an anchor of its own starts there. -/
def join (base path : FilePath) : FilePath :=
  if path.anchor = .home then ⟨base.anchor, base.parts ++ path.parts⟩ else path

/-- Whether a name has an extension: a dot inside it, neither first nor last. -/
def nameHasExtension (name : String) : Bool :=
  match name.toList.reverse.span (· != '.') with
  | (extension, _ :: stem) => !extension.isEmpty && !stem.isEmpty
  | _ => false

def stem (name : String) : String :=
  if nameHasExtension name then
    String.ofList (name.toList.reverse.dropWhile (· != '.')).tail.reverse
  else name

def hasExtension (path : FilePath) : Bool :=
  (path.parts.getLast?.map nameHasExtension).getD false

end FilePath

end MarkupDsl
