import MarkupDsl.Html.Tree
import MarkupDsl.Text.LowerCase

/-!
# Locations

An element together with where it stands: its siblings and the elements around it.  The document
itself counts as an element that nothing stands around.  A frame holds a document of its own.
-/

namespace MarkupDsl.Html

inductive Location where
  | document (children : List Tree)
  | element (name : String) (attributes : List (String × Value)) (children before after : List Tree)
      (parent : Location)
  deriving Inhabited

namespace Location

/-- The name of an element; the document has a name that no tag has. -/
def name : Location → String
  | document _ => "[document]"
  | element name .. => name

def attributes : Location → List (String × Value)
  | document _ => []
  | element _ attributes .. => attributes

def children : Location → List Tree
  | document children => children
  | element _ _ children _ _ _ => children

def before : Location → List Tree
  | document _ => []
  | element _ _ _ before _ _ => before

def after : Location → List Tree
  | document _ => []
  | element _ _ _ _ after _ => after

def parent? : Location → Option Location
  | document _ => none
  | element _ _ _ _ _ parent => some parent

def ancestors : Location → List Location
  | document _ => []
  | element _ _ _ _ _ parent => parent :: ancestors parent

/-- Where an element stands: its number among the nodes around it, and the address of its parent. -/
def address : Location → List Nat
  | document _ => []
  | element _ _ _ before _ parent => before.length :: address parent

/-! ## Names and attributes -/

def tag (here : Location) : String := Text.plainLower here.name

/-- The value of the attribute of a name; the case of plain letters does not count. -/
def attribute? (name : String) (here : Location) : Option Value :=
  (here.attributes.find? fun entry => Text.plainLower entry.1 == Text.plainLower name).map (·.2)

/-- The text of the value of an attribute that is written exactly so. -/
def written? (name : String) (here : Location) : Option String :=
  (here.attributes.lookup name).map Value.written

/-! ## Frames -/

def isFrame (here : Location) : Bool := here.tag == "iframe"

/-- The element around an element; if asked to keep to frames, none for the outermost element of a
frame. -/
def enclosing? (framed : Bool) (here : Location) : Option Location :=
  here.parent?.filter fun parent => !(framed && parent.isFrame)

/-- The elements around an element, the nearest first; if asked to keep to frames, as far as the
frame goes. -/
def enclosings (framed : Bool) : Location → List Location
  | document _ => []
  | element _ _ _ _ _ parent =>
    if framed && parent.isFrame then [] else parent :: enclosings framed parent

def isOutermost (here : Location) : Bool :=
  match here.parent? with
  | none => false
  | some (document _) => !here.before.any Tree.isElement
  | some parent => parent.isFrame

/-! ## Neighbours -/

def tree (here : Location) : Tree := .element here.name here.attributes here.children

def leftOf (parent : Location) (after : List Tree) : List Tree → List Location
  | [] => []
  | tree :: before =>
    let rest := leftOf parent (tree :: after) before
    match tree with
    | .element name attributes children =>
      .element name attributes children before after parent :: rest
    | .string .. | .foreign _ => rest

def rightOf (parent : Location) (before : List Tree) : List Tree → List Location
  | [] => []
  | tree :: after =>
    let rest := rightOf parent (tree :: before) after
    match tree with
    | .element name attributes children =>
      .element name attributes children before after parent :: rest
    | .string .. | .foreign _ => rest

def previous (here : Location) : List Location :=
  match here.parent? with
  | none => []
  | some parent => leftOf parent (here.tree :: here.after) here.before

def next (here : Location) : List Location :=
  match here.parent? with
  | none => []
  | some parent => rightOf parent (here.tree :: here.before) here.after

def inner (here : Location) : List Location := rightOf here [] here.children

mutual

/-- The element at a place and the elements inside it, in document order.  If asked to keep to frames,
what is inside a frame is left out. -/
def withInside (framed : Bool) (parent : Location) (before after : List Tree) :
    Tree → List Location
  | .element name attributes children =>
    let here := element name attributes children before after parent
    here :: (if framed && here.isFrame then [] else insideOf framed here [] children)
  | .string .. | .foreign _ => []

def insideOf (framed : Bool) (parent : Location) (before : List Tree) :
    List Tree → List Location
  | [] => []
  | tree :: after =>
    withInside framed parent before after tree ++ insideOf framed parent (tree :: before) after

end

/-- The elements directly inside an element; if asked to keep to frames, none for a frame. -/
def innerOf (framed : Bool) (here : Location) : List Location :=
  if framed && here.isFrame then [] else here.inner

/-- The elements inside an element, in document order; if asked to keep to frames, without those
inside of frames. -/
def inside (framed : Bool) (here : Location) : List Location :=
  if framed && here.isFrame then [] else insideOf framed here [] here.children

end Location

end MarkupDsl.Html
