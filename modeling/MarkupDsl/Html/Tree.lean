import MarkupDsl.Markup

/-!
# Document trees

The tree that a document is read into.  It keeps apart the kinds of strings that a document can hold;
a markup tree is made from it by dropping the distinctions that conversion does not know.
-/

namespace MarkupDsl.Html

inductive Value where
  | none
  | text (data : String)
  | words (items : List String)
  deriving DecidableEq, Repr, Inhabited

inductive StringKind where
  | text
  | script
  | style
  | template
  | comment
  | cdata
  | doctype
  | declaration
  | instruction
  | xmlInstruction
  deriving DecidableEq, Repr

def StringKind.isText : StringKind → Bool
  | text | script | style | template => true
  | comment | cdata | doctype | declaration | instruction | xmlInstruction => false

inductive Tree where
  | element (name : String) (attributes : List (String × Value)) (children : List Tree)
  | string (kind : StringKind) (data : String)
  /-- An object that does not belong to a document, known by the name of its type. -/
  | foreign (typeName : String)
  deriving Repr, Inhabited

/-- The value of an attribute in a markup tree: words are joined by single spaces. -/
def Value.toMarkup : Value → Option String
  | none => .none
  | text data => some data
  | words items => some (String.intercalate " " items)

def Value.written (value : Value) : String := value.toMarkup.getD ""

/-- The classes of strings that are not text.  A class may hold strings of several kinds. -/
inductive StringClass where
  | comment
  | cdata
  | doctype
  | declaration
  | instruction
  deriving DecidableEq, Repr

/-- Whether strings of a kind belong to a class.  The instructions of XML are instructions as well. -/
def StringKind.isIn : StringKind → StringClass → Bool
  | comment, .comment | cdata, .cdata | doctype, .doctype | declaration, .declaration
  | instruction, .instruction | xmlInstruction, .instruction => true
  | _, _ => false

/-- The classes of strings that a markup tree has no node for, in the order in which they are asked
for, and what they are called there. -/
def unrecognizedClasses : List (StringClass × String) := [
  (.cdata, "cdata"), (.doctype, "doctype"), (.declaration, "declaration"),
  (.instruction, "processing-instruction")]

/-- The node that a string of a document becomes: what belongs to none of the classes is text. -/
def StringKind.toNode (kind : StringKind) (data : String) : Node :=
  if kind.isIn .comment then .comment data
  else
    match unrecognizedClasses.find? fun entry => kind.isIn entry.1 with
    | some (_, name) => .unrecognized name data
    | none => .text data

namespace Tree

mutual

/-- The markup tree of a document tree. -/
def toNode : Tree → Node
  | element name attributes children =>
    .element name (attributes.map fun entry => ⟨entry.1, entry.2.toMarkup⟩) (toNodes children)
  | string kind data => kind.toNode data
  | foreign typeName => .unrecognized typeName ""

def toNodes : List Tree → List Node
  | [] => []
  | tree :: trees => toNode tree :: toNodes trees

end

def isElement : Tree → Bool
  | element .. => true
  | string .. | foreign _ => false

end Tree

end MarkupDsl.Html
