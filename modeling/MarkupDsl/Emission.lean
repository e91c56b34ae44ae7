import MarkupDsl.Markup
import MarkupDsl.Spelling
import MarkupDsl.Text.Blank
import MarkupDsl.Text.LowerCase

/-!
# Emission

A markup tree is emitted as a sequence of events: pieces of code, and reports of the nodes that
cannot be expressed.  The code of a conversion is the concatenation of the pieces, its warnings are
the reports.  An observer sees each report when its turn comes and may stop the conversion there.

An element becomes `tag [name value; …] [child;…]`.  A void element stops after the attributes; a
raw-text element carries one literal in the place of its children.
-/

namespace MarkupDsl

/-! ## Paths -/

/-- One step of a path: the index among all siblings, and the tag if the node is an element. -/
structure Step where
  tag : Option String
  index : Nat
  deriving DecidableEq, Repr

namespace Step

def ofNode (node : Node) (index : Nat) : Step :=
  match node with
  | .element tag _ _ => ⟨some (Text.lower tag), index⟩
  | _ => ⟨none, index⟩

/-- The written form of a step: `tag[index]`, or `#index` for a node without a tag. -/
def written (step : Step) : String :=
  match step.tag with
  | some tag => tag ++ "[" ++ toString step.index ++ "]"
  | none => "#" ++ toString step.index

end Step

/-- The steps from the root of a conversion to a node, the root's own step first. -/
abbrev Path := List Step

def Path.written (path : Path) : String := String.intercalate " > " (path.map Step.written)

/-! ## Warnings and events -/

structure Warning where
  kind : String
  path : Path
  deriving DecidableEq, Repr

def Warning.message (warning : Warning) : String :=
  "skipped unrecognized node '" ++ warning.kind ++ "' at " ++ warning.path.written

inductive Event where
  | code (piece : String)
  | skipped (warning : Warning)
  deriving DecidableEq, Repr

namespace Event

def code? : Event → Option String
  | code piece => some piece
  | skipped _ => none

def warning? : Event → Option Warning
  | code _ => none
  | skipped warning => some warning

end Event

/-! ## The events of a tree -/

structure Settings where
  tables : Tables
  skipBlankText : Bool
  deriving DecidableEq

/-- Whether the settings leave out a child without reporting it. -/
def Settings.leavesOut (settings : Settings) : Node → Bool
  | .text data => settings.skipBlankText && Text.blank data
  | _ => false

def attributeCode (tables : Tables) (attr : Attribute) : String :=
  Spelling.attributeName tables attr.name ++ " " ++
    Spelling.attributeValue tables attr.name attr.value ++ "; "

def openingCode (tables : Tables) (tag : String) (attributes : List Attribute) : String :=
  tag ++ " [" ++ String.join (attributes.map (attributeCode tables)) ++ "] "

namespace Node

mutual

/-- The events of a node that stands at `path`. -/
def events (settings : Settings) (path : Path) : Node → List Event
  | comment data => [.code ("comment " ++ Literal.encodeString data)]
  | text data => [.code ("txt " ++ Literal.encodeString data)]
  | element tag attributes children =>
    let name := Text.lower tag
    .code (openingCode settings.tables name attributes) ::
      if name ∈ settings.tables.voidTags then []
      else if name ∈ settings.tables.rawTextTags then
        [.code (Literal.encodeString (String.join (textsOfAll children)))]
      else .code "[" :: (childEvents settings path 0 children ++ [.code "]"])
  | unrecognized kind _ => [.skipped ⟨kind, path⟩]
  | foreign typeName => [.skipped ⟨typeName, path⟩]

def childEvents (settings : Settings) (path : Path) (index : Nat) : List Node → List Event
  | [] => []
  | child :: rest =>
    let here := events settings (path ++ [Step.ofNode child index]) child
    (if !child.isExpressible then here
     else if settings.leavesOut child then []
     else .code "\n" :: (here ++ [.code ";"])) ++
      childEvents settings path (index + 1) rest

end

end Node

/-! ## Conversions -/

inductive PrecheckReason where
  | missingRoot
  | unsupportedRoot
  | emptyDocument
  deriving DecidableEq, Repr

def PrecheckReason.label : PrecheckReason → String
  | missingRoot => "missing-root"
  | unsupportedRoot => "unsupported-root"
  | emptyDocument => "empty-document"

inductive PrecheckError where
  | noRoot
  /-- The node to convert has no form in the emitted code. -/
  | inexpressibleRoot (kind : String)
  | blankDocument
  | noMatch (selector : String)
  /-- Without a selector the root is not determined. -/
  | undeterminedRoot (topLevelElements : Nat)
  deriving DecidableEq, Repr

namespace PrecheckError

def reason : PrecheckError → PrecheckReason
  | noRoot | noMatch _ | undeterminedRoot _ => .missingRoot
  | inexpressibleRoot _ => .unsupportedRoot
  | blankDocument => .emptyDocument

def detail : PrecheckError → String
  | noRoot => "no root node was supplied"
  | inexpressibleRoot kind => "root must be an element, text or comment node, got " ++ kind
  | blankDocument => "input document is empty"
  | noMatch selector => "no element matches selector '" ++ selector ++ "'"
  | undeterminedRoot count =>
    "no 'html' element and " ++ toString count ++
      " top-level elements; pass a selector to pick the root"

def message (error : PrecheckError) : String :=
  "precheck failed (" ++ error.reason.label ++ "): " ++ error.detail

end PrecheckError

/-- The root of a conversion, provided that it can be expressed. -/
def precheck : Option Node → Except PrecheckError Node
  | none => .error .noRoot
  | some root =>
    if root.isExpressible then .ok root else .error (.inexpressibleRoot root.kindName)

structure Conversion where
  text : String
  warnings : List Warning
  deriving DecidableEq, Repr

def rootEvents (settings : Settings) (root : Node) : List Event :=
  root.events settings [Step.ofNode root 0]

def Conversion.ofEvents (events : List Event) : Conversion :=
  ⟨String.join (events.filterMap Event.code?), events.filterMap Event.warning?⟩

/-- Convert a tree. -/
def transpile (settings : Settings) (root : Option Node) : Except PrecheckError Conversion := do
  let node ← precheck root
  return Conversion.ofEvents (rootEvents settings node)

def serialize (tables : Tables) (root : Option Node) : Except PrecheckError String := do
  let conversion ← transpile ⟨tables, false⟩ root
  return conversion.text

/-! ## Observed conversions -/

/-- An observer takes in a warning, and may stop the conversion with an error of its own. -/
abbrev Observer (σ ε : Type) := Warning → σ → σ × Option ε

inductive Ending (ε : Type) where
  | finished (conversion : Conversion)
  | refused (error : PrecheckError)
  | stopped (error : ε)

/-- A conversion under way: what has come of it so far, and the state of its observer. -/
structure Progress (σ : Type) where
  conversion : Conversion
  state : σ

/-- Steps of an observed conversion.  The progress that is made before an error is not lost. -/
abbrev Observed (σ ε : Type) := EStateM ε (Progress σ)

section

variable {σ ε : Type} (observer : Observer σ ε)

namespace Observed

def write (piece : String) : Observed σ ε Unit :=
  modify fun progress =>
    { progress with conversion.text := progress.conversion.text ++ piece }

/-- Put a warning down, then show it to the observer, who may stop the conversion here. -/
def report (warning : Warning) : Observed σ ε Unit := fun progress =>
  let conversion : Conversion :=
    { progress.conversion with warnings := progress.conversion.warnings ++ [warning] }
  match observer warning progress.state with
  | (state, none) => .ok () ⟨conversion, state⟩
  | (state, some error) => .error error ⟨conversion, state⟩

end Observed

namespace Node

open Observed

mutual

def emit (settings : Settings) (path : Path) : Node → Observed σ ε Unit
  | comment data => write ("comment " ++ Literal.encodeString data)
  | text data => write ("txt " ++ Literal.encodeString data)
  | element tag attributes children => do
    let name := Text.lower tag
    write (openingCode settings.tables name attributes)
    if name ∈ settings.tables.voidTags then
      return
    else if name ∈ settings.tables.rawTextTags then
      write (Literal.encodeString (String.join (textsOfAll children)))
    else
      write "["
      emitChildren settings path 0 children
      write "]"
  | unrecognized kind _ => report observer ⟨kind, path⟩
  | foreign typeName => report observer ⟨typeName, path⟩

def emitChildren (settings : Settings) (path : Path) (index : Nat) : List Node → Observed σ ε Unit
  | [] => return
  | child :: rest => do
    if !child.isExpressible then
      emit settings (path ++ [Step.ofNode child index]) child
    else if settings.leavesOut child then
      pure ()
    else
      write "\n"
      emit settings (path ++ [Step.ofNode child index]) child
      write ";"
    emitChildren settings path (index + 1) rest

end

end Node

def transpileObserved (settings : Settings) (root : Option Node) (state : σ) : σ × Ending ε :=
  match precheck root with
  | .error error => (state, .refused error)
  | .ok node =>
    match node.emit observer settings [Step.ofNode node 0] ⟨⟨"", []⟩, state⟩ with
    | .ok _ progress => (progress.state, .finished progress.conversion)
    | .error error progress => (progress.state, .stopped error)

end

/-! ## Converters -/

/-- A converter stays between its calls, and so does the state of its observer. -/
structure Converter (σ : Type) where
  settings : Settings
  state : σ

/-- A call of a converter: the settings that are changed before it, and the tree to convert. -/
structure Call where
  tables : Option Tables
  skipBlankText : Option Bool
  root : Option Node

def Call.settings (call : Call) (before : Settings) : Settings :=
  ⟨call.tables.getD before.tables, call.skipBlankText.getD before.skipBlankText⟩

namespace Converter

variable {σ ε : Type} (observer : Observer σ ε)

def call (converter : Converter σ) (call : Call) : Converter σ × Ending ε :=
  let settings := call.settings converter.settings
  let (state, ending) := transpileObserved observer settings call.root converter.state
  (⟨settings, state⟩, ending)

def calls (converter : Converter σ) : List Call → Converter σ × List (Ending ε)
  | [] => (converter, [])
  | first :: rest =>
    let (converter, ending) := converter.call observer first
    let (converter, endings) := converter.calls rest
    (converter, ending :: endings)

end Converter

end MarkupDsl
