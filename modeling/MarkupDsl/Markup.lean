/-!
# Markup trees

The document model: elements with ordered attributes and children, texts, comments, and the nodes
that have no form in the emitted code.
-/

namespace MarkupDsl

/-- An attribute; one without a value is written by its name alone. -/
structure Attribute where
  name : String
  value : Option String
  deriving DecidableEq, Repr, Inhabited

inductive Node where
  | element (tag : String) (attributes : List Attribute) (children : List Node)
  | text (data : String)
  | comment (data : String)
  /-- A markup construct that the emitted code cannot express, such as a doctype. -/
  | unrecognized (kind : String) (data : String)
  | foreign (typeName : String)
  deriving Repr, Inhabited

namespace Node

def isExpressible : Node → Bool
  | element .. | text _ | comment _ => true
  | unrecognized .. | foreign _ => false

/-- What a node is called when it is reported as not expressible. -/
def kindName : Node → String
  | element .. => "Element"
  | text _ => "Text"
  | comment _ => "Comment"
  | unrecognized kind _ => kind
  | foreign typeName => typeName

mutual

/-- The texts at or below a node, in document order; comments do not count. -/
def texts : Node → List String
  | element _ _ children => textsOfAll children
  | text data => [data]
  | comment _ | unrecognized .. | foreign _ => []

def textsOfAll : List Node → List String
  | [] => []
  | node :: nodes => texts node ++ textsOfAll nodes

end

def textContent (node : Node) : String := String.join node.texts

end Node

end MarkupDsl
