import MarkupDsl.Html.Token
import MarkupDsl.Html.Tree

/-!
# Documents

The tokens of a document are put together to a tree.  No tag is supplied that is not written: an
element stays open until a closing tag of its name, or until a closing tag of an element around it.
A closing tag without an open element is passed over.  A tag that closes itself closes its own
element.  Elements without content are closed at once as well, and a closing tag that is written for
one of them later counts as already seen.
-/

namespace MarkupDsl.Html

def emptyElements : List String := [
  "area", "base", "br", "col", "embed", "hr", "img", "input", "keygen", "link", "menuitem", "meta",
  "param", "source", "track", "wbr", "basefont", "bgsound", "command", "frame", "image", "isindex",
  "nextid", "spacer"]

def blankKeepingElements : List String := ["pre", "textarea"]

/-- An element that is still open; its children stand in reverse. -/
structure OpenElement where
  name : String
  attributes : List (String × Value)
  children : List Tree

/-- A document as far as it is built. -/
structure Builder where
  stack : List OpenElement
  roots : List Tree
  /-- The pieces of text that are not yet put into the tree, in reverse. -/
  pending : List (List Char)
  /-- The elements without content whose closing tags are to be passed over. -/
  closed : List String

namespace Builder

def empty : Builder := ⟨[], [], [], []⟩

def add (tree : Tree) (builder : Builder) : Builder :=
  match builder.stack with
  | [] => { builder with roots := tree :: builder.roots }
  | inner :: outer =>
    { builder with stack := { inner with children := tree :: inner.children } :: outer }

/-- Whether a character counts as blank where texts are shortened. -/
def isPlainBlank (c : Char) : Bool :=
  c == ' ' || c == '\n' || c == '\t' || c == '\x0c' || c == '\r'

/-- A text as it is put into the tree: a blank one is shortened to a single character. -/
def shortened (keeps : Bool) (text : List Char) : List Char :=
  if keeps || !text.all isPlainBlank then text
  else if text.contains '\n' then ['\n'] else [' ']

def keepsBlanks (builder : Builder) : Bool :=
  builder.stack.any fun element => blankKeepingElements.contains element.name

def flush (kind : StringKind) (builder : Builder) : Builder :=
  match builder.pending with
  | [] => builder
  | pieces =>
    let text := shortened builder.keepsBlanks pieces.reverse.flatten
    add (.string kind (String.ofList text)) { builder with pending := [] }

def append (text : List Char) (builder : Builder) : Builder :=
  { builder with pending := text :: builder.pending }

def addString (kind : StringKind) (data : List Char) (builder : Builder) : Builder :=
  ((builder.flush .text).append data).flush kind

def finished (element : OpenElement) : Tree :=
  .element element.name element.attributes element.children.reverse

/-- Close open elements, the given number of them. -/
def closeInner : Nat → Builder → Builder
  | 0, builder => builder
  | count + 1, builder =>
    match builder.stack with
    | [] => builder
    | inner :: outer => closeInner count (add (finished inner) { builder with stack := outer })

def close (name : String) (builder : Builder) : Builder :=
  let builder := builder.flush .text
  match builder.stack.findIdx? fun element => element.name == name with
  | none => builder
  | some inside => closeInner (inside + 1) builder

/-- Take in a closing tag, unless it counts as already seen. -/
def closeTag (name : String) (builder : Builder) : Builder :=
  if builder.closed.contains name then { builder with closed := builder.closed.erase name }
  else builder.close name

/-- Set the value of an attribute; a later one replaces the value of an earlier one. -/
def setAttribute (name : String) (value : Value) :
    List (String × Value) → List (String × Value)
  | [] => [(name, value)]
  | entry :: rest =>
    if entry.1 = name then (name, value) :: rest else entry :: setAttribute name value rest

/-- The attributes of an element; each name occurs once. -/
def attributesOf (written : List (String × String)) : List (String × Value) :=
  written.foldl (fun attributes entry => setAttribute entry.1 (.text entry.2) attributes) []

def openElement (name : String) (attributes : List (String × String)) (builder : Builder) :
    Builder :=
  let builder := builder.flush .text
  { builder with stack := ⟨name, attributesOf attributes, []⟩ :: builder.stack }

def take (builder : Builder) : Token → Builder
  | .text data => builder.append data
  | .opening name attributes true => (builder.openElement name attributes).close name
  | .opening name attributes false =>
    let builder := builder.openElement name attributes
    if emptyElements.contains name then
      let builder := builder.close name
      { builder with closed := builder.closed ++ [name] }
    else builder
  | .closing name => builder.closeTag name
  | .comment data => builder.addString .comment data
  | .doctype data => builder.addString .doctype data
  | .cdata data => builder.addString .cdata data
  | .declaration data => builder.addString .declaration data
  | .instruction data => builder.addString .instruction data

def finish (builder : Builder) : List Tree :=
  let builder := builder.flush .text
  (closeInner builder.stack.length builder).roots.reverse

end Builder

def read (document : String) : Except Error (List Tree) := do
  let tokens ← tokens document.toList
  return (tokens.foldl Builder.take Builder.empty).finish

end MarkupDsl.Html
