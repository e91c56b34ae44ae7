import MarkupDsl.Emission
import MarkupDsl.Html.Document
import MarkupDsl.Selector.Group
import MarkupDsl.Selector.Match

/-!
# Roots of documents

The element that a conversion of a document starts from.  A selector names it; without one it is the
first `html` element, or else the element at the top level, provided that there is exactly one.
-/

namespace MarkupDsl

open Html

/-- Why a document has no root. -/
inductive RootError where
  | precheck (error : PrecheckError)
  | document (error : Html.Error)
  | selector (error : Selector.Error)
  | undecided (cause : Selector.Undecided)
  deriving DecidableEq, Repr

def readDocument (text : String) : Except RootError (List Tree) :=
  if Text.blank text then .error (.precheck .blankDocument)
  else (Html.read text).mapError .document

/-- The choices of the selector that is used where none is given. -/
def htmlChoices : List Selector.Compound := [[.type none "html"]]

def selectedRoot (document : List Tree) (selector : String) : Except RootError Tree :=
  match Selector.read selector with
  | .error error => .error (.selector error)
  | .ok choices =>
    match Selector.firstMatch? choices document with
    | .error cause => .error (.undecided cause)
    | .ok (some here) => .ok here.tree
    | .ok none => .error (.precheck (.noMatch selector))

def standardRoot (document : List Tree) : Except RootError Tree :=
  match Selector.firstMatch? htmlChoices document with
  | .error cause => .error (.undecided cause)
  | .ok (some here) => .ok here.tree
  | .ok none =>
    match document.filter Tree.isElement with
    | [tree] => .ok tree
    | trees => .error (.precheck (.undeterminedRoot trees.length))

def rootOf (document : List Tree) : Option String → Except RootError Tree
  | some selector => selectedRoot document selector
  | none => standardRoot document

def documentRoot (text : String) (selector : Option String) : Except RootError Node := do
  let root ← rootOf (← readDocument text) selector
  return root.toNode

end MarkupDsl
