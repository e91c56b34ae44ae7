import MarkupDsl.Yaml.Tag
import MarkupDsl.Yaml.Token

/-!
# Nodes

The tree of tagged values that the tokens of a document spell.  An alias stands for the node that its
anchor names.  Inside that node itself it makes a cycle, which is followed a few times round: further
than any reader of tables looks.
-/

namespace MarkupDsl.Yaml

inductive Node where
  | scalar (tag : Tag) (text : ScalarText) (anchor : Option String)
  | sequence (tag : Tag) (items : List Node)
  | mapping (tag : Tag) (entries : List (Node × Node))
  | cycle (anchor : String)
  deriving Inhabited

namespace Node

def empty : Node := .scalar .null (.plain []) none

/-! ## Cycles -/

mutual

def cycles (name : String) : Node → Nat
  | scalar .. => 0
  | sequence _ items => cyclesInItems name items
  | mapping _ entries => cyclesInEntries name entries
  | cycle anchor => if anchor = name then 1 else 0

def cyclesInItems (name : String) : List Node → Nat
  | [] => 0
  | item :: items => cycles name item + cyclesInItems name items

def cyclesInEntries (name : String) : List (Node × Node) → Nat
  | [] => 0
  | (key, value) :: entries =>
    cycles name key + cycles name value + cyclesInEntries name entries

end

mutual

def fillCycles (name : String) (filling : Node) : Node → Node
  | scalar tag text anchor => scalar tag text anchor
  | sequence tag items => sequence tag (fillCyclesInItems name filling items)
  | mapping tag entries => mapping tag (fillCyclesInEntries name filling entries)
  | cycle anchor => if anchor = name then filling else cycle anchor

def fillCyclesInItems (name : String) (filling : Node) : List Node → List Node
  | [] => []
  | item :: items => fillCycles name filling item :: fillCyclesInItems name filling items

def fillCyclesInEntries (name : String) (filling : Node) : List (Node × Node) → List (Node × Node)
  | [] => []
  | (key, value) :: entries =>
    (fillCycles name filling key, fillCycles name filling value) ::
      fillCyclesInEntries name filling entries

end

def unrolled (name : String) (node : Node) : (rounds : Nat) → Node
  | 0 => node
  | rounds + 1 => fillCycles name (unrolled name node rounds) node

/-- How often cycles are followed round: less often where there are many. -/
def roundsFor (count : Nat) : Nat := if count = 0 then 0 else if count ≤ 5 then 4 else 1

def isCycleOf (name : String) : Node → Bool
  | cycle anchor => anchor == name
  | scalar .. | sequence .. | mapping .. => false

def withoutSelf (name : String) : Node → Node
  | mapping tag entries =>
    mapping tag (entries.filterMap fun entry =>
      match entry with
      | (scalar .merge text anchor, cycle other) =>
        if other = name then none else some (scalar .merge text anchor, cycle other)
      | (scalar .merge text anchor, sequence tag items) =>
        some (scalar .merge text anchor, sequence tag (items.filter (!isCycleOf name ·)))
      | entry => some entry)
  | node => node

def underAnchor (name : String) (node : Node) : Node :=
  match node with
  | scalar tag text _ => scalar tag text (some name)
  | node =>
    let node := node.withoutSelf name
    node.unrolled name (roundsFor (node.cycles name))

end Node

/-- What is left to read of a document, and what has been declared in it. -/
structure Reader where
  tokens : List Token
  fault : Error
  handles : List (String × String)
  /-- The nodes by their anchors; a node that is not yet complete is left open. -/
  anchors : List (String × Option Node)

namespace Reader

def peek (r : Reader) : Except Error Token :=
  match r.tokens with
  | token :: _ => .ok token
  | [] => .error r.fault

def advance (r : Reader) : Reader := { r with tokens := r.tokens.tail }

def expect (r : Reader) (token : Token) (rule : String) : Except Error Reader := do
  if (← r.peek) = token then return r.advance else throw (.malformed rule)

def defaultHandles : List (String × String) := [("!", "!"), ("!!", Tag.standardStart)]

def properties (r : Reader) : Except Error ((Option String × Option (Option String × String)) × Reader) := do
  match ← r.peek with
  | .anchor name =>
    let r := r.advance
    match ← r.peek with
    | .tag handle suffix => return ((some name, some (handle, suffix)), r.advance)
    | _ => return ((some name, none), r)
  | .tag handle suffix =>
    let r := r.advance
    match ← r.peek with
    | .anchor name => return ((some name, some (handle, suffix)), r.advance)
    | _ => return ((none, some (handle, suffix)), r)
  | _ => return ((none, none), r)

def tagName (r : Reader) : Option String × String → Except Error String
  | (none, suffix) => .ok suffix
  | (some handle, suffix) =>
    match r.handles.lookup handle with
    | some start => .ok (start ++ suffix)
    | none => .error (.malformed "a handle is declared")

def openAnchor (r : Reader) : Option String → Except Error Reader
  | none => .ok r
  | some name =>
    if (r.anchors.lookup name).isSome then .error (.malformed "an anchor is unique")
    else .ok { r with anchors := (name, none) :: r.anchors }

def closeAnchor (r : Reader) (name : String) (node : Node) : Reader :=
  { r with anchors := (name, some node) :: r.anchors }

def scalarTag (name : Option String) (isPlain : Bool) (text : ScalarText) : Tag :=
  match name with
  | none => if isPlain && !text.illFormed then .ofPlain text.chars else .str
  | some "!" => if text.illFormed then .str else .ofPlain text.chars
  | some name => .ofName name

def collectionTag (name : Option String) (standard : Tag) : Tag :=
  match name with
  | none | some "!" => standard
  | some name => .ofName name

/-- Where a node stands, which decides whether it may be a block collection. -/
inductive Place where
  | block
  /-- A key or a value of a block mapping: a sequence there needs no indentation. -/
  | blockEntry
  | flow
  deriving DecidableEq

mutual

def node (r : Reader) (place : Place) : (fuel : Nat) → Except Error (Node × Reader)
  | 0 => .error r.fault
  | fuel + 1 => do
    match ← r.peek with
    | .alias name =>
      match r.anchors.lookup name with
      | none => throw (.malformed "an alias has an anchor")
      | some none => return (.cycle name, r.advance)
      | some (some node) => return (node, r.advance)
    | _ =>
      let ((anchor, tag?), r) ← r.properties
      let name ←
        match tag? with
        | none => pure none
        | some tag => do pure (some (← r.tagName tag))
      let (node, r) ← content (← r.openAnchor anchor) place name (anchor.isSome || name.isSome) fuel
      match anchor with
      | none => return (node, r)
      | some anchor =>
        let node := node.underAnchor anchor
        return (node, r.closeAnchor anchor node)

def content (r : Reader) (place : Place) (name : Option String) (mayBeEmpty : Bool) :
    (fuel : Nat) → Except Error (Node × Reader)
  | 0 => .error r.fault
  | fuel + 1 => do
    match ← r.peek, place with
    | .blockEntry, .blockEntry =>
      let (items, r) ← looseItems r fuel
      return (.sequence (collectionTag name .seq) items, r)
    | .scalar text isPlain, _ =>
      return (.scalar (scalarTag name isPlain text) text none, r.advance)
    | .flowSequenceStart, _ =>
      let (items, r) ← flowItems r.advance true fuel
      return (.sequence (collectionTag name .seq) items, r)
    | .flowMappingStart, _ =>
      let (entries, r) ← flowEntries r.advance true fuel
      return (.mapping (collectionTag name .map) entries, r)
    | token, place =>
      if token = .blockSequenceStart ∧ place ≠ .flow then
        let (items, r) ← blockItems r.advance fuel
        return (.sequence (collectionTag name .seq) items, r)
      else if token = .blockMappingStart ∧ place ≠ .flow then
        let (entries, r) ← blockEntries r.advance fuel
        return (.mapping (collectionTag name .map) entries, r)
      else if mayBeEmpty then
        return (.scalar (scalarTag name true (.plain [])) (.plain []) none, r)
      else throw (.malformed "a node has content")

/-- Read a node, unless one of the tokens that end its place follows. -/
def nodeUnless (r : Reader) (place : Place) (ends : List Token) :
    (fuel : Nat) → Except Error (Node × Reader)
  | 0 => .error r.fault
  | fuel + 1 => do
    if ends.contains (← r.peek) then return (.empty, r) else node r place fuel

def blockItems (r : Reader) : (fuel : Nat) → Except Error (List Node × Reader)
  | 0 => .error r.fault
  | fuel + 1 => do
    match ← r.peek with
    | .blockEntry =>
      let (item, r) ← nodeUnless r.advance .block [.blockEntry, .blockEnd] fuel
      let (items, r) ← blockItems r fuel
      return (item :: items, r)
    | .blockEnd => return ([], r.advance)
    | _ => throw (.malformed "a block sequence consists of entries")

/-- Read the entries of a block sequence that is not indented. -/
def looseItems (r : Reader) : (fuel : Nat) → Except Error (List Node × Reader)
  | 0 => .error r.fault
  | fuel + 1 => do
    match ← r.peek with
    | .blockEntry =>
      let (item, r) ← nodeUnless r.advance .block [.blockEntry, .key, .value, .blockEnd] fuel
      let (items, r) ← looseItems r fuel
      return (item :: items, r)
    | _ => return ([], r)

def blockEntries (r : Reader) : (fuel : Nat) → Except Error (List (Node × Node) × Reader)
  | 0 => .error r.fault
  | fuel + 1 => do
    match ← r.peek with
    | .key =>
      let (key, r) ← nodeUnless r.advance .blockEntry [.key, .value, .blockEnd] fuel
      let (value, r) ←
        match ← r.peek with
        | .value => nodeUnless r.advance .blockEntry [.key, .value, .blockEnd] fuel
        | _ => pure (.empty, r)
      let (entries, r) ← blockEntries r fuel
      return ((key, value) :: entries, r)
    | .blockEnd => return ([], r.advance)
    | _ => throw (.malformed "a block mapping consists of entries")

/-- Read the value of an entry of a flow collection, empty unless a colon precedes it. -/
def flowValue (r : Reader) (ending : Token) : (fuel : Nat) → Except Error (Node × Reader)
  | 0 => .error r.fault
  | fuel + 1 => do
    match ← r.peek with
    | .value => nodeUnless r.advance .flow [.flowEntry, ending] fuel
    | _ => return (.empty, r)

def flowItems (r : Reader) (first : Bool) : (fuel : Nat) → Except Error (List Node × Reader)
  | 0 => .error r.fault
  | fuel + 1 => do
    if (← r.peek) = .flowSequenceEnd then return ([], r.advance)
    let r ←
      if first then pure r else r.expect .flowEntry "entries of a flow sequence are separated"
    match ← r.peek with
    | .flowSequenceEnd => return ([], r.advance)
    | .key =>
      let (key, r) ← nodeUnless r.advance .flow [.value, .flowEntry, .flowSequenceEnd] fuel
      let (value, r) ← flowValue r .flowSequenceEnd fuel
      let (items, r) ← flowItems r false fuel
      return (.mapping .map [(key, value)] :: items, r)
    | _ =>
      let (item, r) ← node r .flow fuel
      let (items, r) ← flowItems r false fuel
      return (item :: items, r)

def flowEntries (r : Reader) (first : Bool) :
    (fuel : Nat) → Except Error (List (Node × Node) × Reader)
  | 0 => .error r.fault
  | fuel + 1 => do
    if (← r.peek) = .flowMappingEnd then return ([], r.advance)
    let r ←
      if first then pure r else r.expect .flowEntry "entries of a flow mapping are separated"
    match ← r.peek with
    | .flowMappingEnd => return ([], r.advance)
    | .key =>
      let (key, r) ← nodeUnless r.advance .flow [.value, .flowEntry, .flowMappingEnd] fuel
      let (value, r) ← flowValue r .flowMappingEnd fuel
      let (entries, r) ← flowEntries r false fuel
      return ((key, value) :: entries, r)
    | _ =>
      let (key, r) ← node r .flow fuel
      let (entries, r) ← flowEntries r false fuel
      return ((key, .empty) :: entries, r)

end

def directives (version : Bool) (handles : List (String × String)) (fault : Error) :
    List Token → Except Error (List (String × String) × List Token)
  | [] => .error fault
  | .directive (.version major) :: rest =>
    if version then .error (.malformed "a version is given once")
    else if major ≠ 1 then .error (.malformed "the version is supported")
    else directives true handles fault rest
  | .directive (.tagHandle handle start) :: rest =>
    if (handles.lookup handle).isSome then .error (.malformed "a handle is declared once")
    else directives version ((handle, start) :: handles) fault rest
  | .directive .other :: rest => directives version handles fault rest
  | tokens => .ok (handles, tokens)

def isExplicit : Token → Bool
  | .directive _ | .documentStart | .streamEnd => true
  | _ => false

def explicitContent (r : Reader) : Except Error (Node × Reader) := do
  match ← r.peek with
  | .directive _ | .documentStart | .documentEnd | .streamEnd => return (.empty, r)
  | _ => node r .block (10 * r.tokens.length + 10)

def skipDocumentEnds (r : Reader) : Reader :=
  { r with tokens := r.tokens.dropWhile (· = .documentEnd) }

def document (r : Reader) : Except Error (Option Node) := do
  match ← r.peek with
  | .streamEnd => return none
  | first =>
    let (node, r) ←
      if isExplicit first then do
        let (handles, tokens) ← directives false [] r.fault r.tokens
        let declared := handles ++ defaultHandles
        let r ← { r with tokens, handles := declared }.expect .documentStart "a document is marked"
        explicitContent r
      else node { r with handles := defaultHandles } .block (10 * r.tokens.length + 10)
    let r := r.skipDocumentEnds
    if (← r.peek) = .streamEnd then return some node
    else throw (.malformed "there is one document")

end Reader

def Node.ofText? (text : List Char) : Except Error (Option Node) :=
  let (tokens, fault) := Yaml.tokens text
  Reader.document ⟨tokens, fault.getD (.malformed "the document is complete"), [], []⟩

end MarkupDsl.Yaml
