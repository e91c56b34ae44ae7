import MarkupDsl.Selector.Control
import MarkupDsl.Selector.Token

/-!
# Selectors from tokens

Lists of selectors lie inside each other.  Tokens are taken in one by one; the lists that are open
are kept as a stack of groups, and a list that closes becomes a test of the group around it.
-/

namespace MarkupDsl.Selector

inductive GroupKind where
  | whole
  /-- Selectors of which one has to select the element.  Missing ones may be forgiven. -/
  | oneOf (forgiving : Bool)
  | noneOf
  | relative
  /-- Selectors whose meaning does not matter, because no element is selected. -/
  | unmatched
  | among (place : Nat) (progression : Progression) (fromEnd : Bool)
  deriving DecidableEq, Repr

/-- How a compound in a relative selector stands to the one before it, and the place in the selector
where that is written. -/
structure Link where
  place : Nat
  relation : Relation

structure Group where
  kind : GroupKind
  choices : List Compound
  /-- What the current selector says so far about elements before or around the one tested. -/
  past : Option (Relation × Compound)
  /-- What the current selector says so far about elements behind or inside the one tested. -/
  future : List (Link × Compound)
  link : Link
  tests : Compound
  isFilled : Bool
  /-- Whether the selectors do not look into frames or out of them. -/
  isFramed : Bool

/-! ## The order of tests -/

/-- The turn of a test in its compound.  Names come first, then positions, the element itself and its
language; lists of selectors and surroundings come late, contents last. -/
def Test.turn : Test → Nat
  | .never | .type .. | .defined | .root | .scope | .textless => 0
  | .position .. => 1
  | .empty | .id _ | .word _ | .attribute .. => 2
  | .language _ => 3
  | .oneOf _ | .noneOf _ | .framed _ => 4
  | .after .. | .before .. => 5
  | .sendsForm | .noneChecked | .range _ | .direction _ | .contains .. => 6

/-- Tests in the order of their turns; tests that share a turn keep their order. -/
def inTurn (tests : Compound) : Compound :=
  (List.range 7).flatMap fun turn => tests.filter fun test => test.turn == turn

namespace Group

def start (kind : GroupKind) : Group :=
  ⟨kind, [], none, [], ⟨0, .descendant⟩, [], false, false⟩

/-- Whether selectors may be missing from the group. -/
def isForgiving (group : Group) : Bool := group.kind == .oneOf true

def keepsToFrames : Test → Bool
  | .defined | .direction _ => true
  | _ => false

def add (test : Test) (group : Group) : Group :=
  { group with
    tests := group.tests ++ [test]
    isFilled := true
    isFramed := group.isFramed || keepsToFrames test }

/-- The group with a test of the text in its current compound.  The first such test of a compound
decides how the content of the element is taken by all of them. -/
def addContains (own : Bool) (texts : List (List Char)) (group : Group) : Group :=
  let pieces? (test : Test) : Option Bool :=
    match test with
    | .contains pieces _ _ => some pieces
    | _ => none
  group.add (.contains ((group.tests.findSome? pieces?).getD own) own texts)

def chain : List (Link × Compound) → Compound
  | [] => []
  | (link, tests) :: rest => [.before link.place link.relation (inTurn (tests ++ chain rest))]

def current (group : Group) : Compound :=
  match group.kind with
  | .relative => chain (group.future ++ [(group.link, group.tests)])
  | _ => inTurn (group.tests ++ (group.past.map fun past => Test.after past.1 past.2).toList)

/-- The group with its current selector done; nothing of the next one is read. -/
def finish (choice : Option Compound) (group : Group) : Group :=
  { start group.kind with
    choices := group.choices ++ choice.toList
    isFramed := group.isFramed }

def relationOf (mark : Char) : Relation :=
  if mark = '>' then .child
  else if mark = '+' then .adjacent
  else if mark = '~' then .sibling
  else .descendant

/-- Take in a combinator.  A missing selector that is forgiven leaves no choice behind. -/
def combine (place : Nat) (mark : Char) (group : Group) : Except Error Group :=
  if mark = ',' then
    if group.isFilled then .ok (group.finish (some group.current))
    else if group.isForgiving then .ok (group.finish none)
    else .error .malformed
  else
    let relation := relationOf mark
    match group.kind with
    | .relative =>
      if group.isFilled then
        .ok { group with
          future := group.future ++ [(group.link, group.tests)]
          link := ⟨place, relation⟩, tests := [], isFilled := false }
      else if group.link.relation = .descendant then .ok { group with link := ⟨place, relation⟩ }
      else .error .malformed
    | _ =>
      if group.isFilled then
        .ok { group with past := some (relation, group.current), tests := [], isFilled := false }
      else .error .malformed

def close (group : Group) : Except Error (List Compound) :=
  if group.isFilled then .ok (group.choices ++ [group.current])
  else if group.isForgiving && (group.choices.isEmpty || group.past.isNone) then
    .ok (group.choices ++ [[.never]])
  else .error .malformed

def test (kind : GroupKind) (choices : List Compound) : Test :=
  match kind with
  | .whole | .oneOf _ | .relative => .oneOf choices
  | .noneOf => .noneOf choices
  | .unmatched => .never
  | .among place progression fromEnd => .position place progression fromEnd false choices

def framedChoices (isFramed : Bool) (choices : List Compound) : List Compound :=
  if isFramed then [[.framed (.oneOf choices)]] else choices

end Group

/-! ## Pseudo-classes -/

def first (fromEnd sameName : Bool) : Test := .position 0 ⟨0, 1, true⟩ fromEnd sameName []

def simpleClasses : List (String × Test) := [
  ("any-link", .link), ("link", .link),
  ("checked", .checked),
  ("default", .chosen),
  ("defined", .defined),
  ("disabled", .disabled),
  ("empty", .empty),
  ("enabled", .enabled),
  ("first-child", first false false),
  ("first-of-type", first false true),
  ("in-range", .bounded true),
  ("indeterminate", .indeterminate),
  ("last-child", first true false),
  ("last-of-type", first true true),
  ("muted", .muted),
  ("only-child", .oneOf [[first false false, first true false]]),
  ("only-of-type", .oneOf [[first false true, first true true]]),
  ("open", .opened),
  ("optional", .optional),
  ("out-of-range", .bounded false),
  ("placeholder-shown", .placeholderShown),
  ("read-only", .readOnly),
  ("read-write", .readWrite),
  ("required", .required),
  ("root", .root),
  ("scope", .scope)]

/-- The pseudo-classes that no element of a document at rest belongs to. -/
def idleClasses : List String := [
  "active", "autofill", "buffering", "current", "focus", "focus-visible", "focus-within",
  "fullscreen", "future", "host", "hover", "local-link", "past", "paused", "picture-in-picture",
  "playing", "popover-open", "seeking", "stalled", "target", "target-within", "user-invalid",
  "visited", "volume-locked"]

def groupKind? (name : String) : Option GroupKind :=
  if name = "not" then some .noneOf
  else if name = "has" then some .relative
  else if name = "is" ∨ name = "where" then some (.oneOf true)
  else if name = "matches" ∨ textClasses.contains name then some (.oneOf false)
  else if ["current", "host", "host-context"].contains name then some .unmatched
  else none

/-! ## Reading -/

/-- The groups that are open: the innermost one and those around it. -/
structure Reading where
  inner : Group
  outer : List Group

namespace Reading

def add (test : Test) (reading : Reading) : Reading :=
  { reading with inner := reading.inner.add test }

def openGroup (kind : GroupKind) (reading : Reading) : Reading :=
  ⟨.start kind, reading.inner :: reading.outer⟩

def take (reading : Reading) : Token → Except Error Reading
  | .test test => .ok (reading.add test)
  | .contains own texts => .ok { reading with inner := reading.inner.addContains own texts }
  | .type test => if reading.inner.isFilled then .error .malformed else .ok (reading.add test)
  | .positionAmong place progression fromEnd =>
    .ok (reading.openGroup (.among place progression fromEnd))
  | .pseudo name true =>
    match groupKind? name with
    | some kind => .ok (reading.openGroup kind)
    | none => .error .malformed
  | .pseudo name false =>
    match simpleClasses.lookup name with
    | some test => .ok (reading.add test)
    | none => if idleClasses.contains name then .ok (reading.add .never) else .error .malformed
  | .combinator place mark => do
    return { reading with inner := ← reading.inner.combine place mark }
  | .close =>
    match reading.outer with
    | [] => .error .malformed
    | parent :: outer => do
      let choices := Group.framedChoices reading.inner.isFramed (← reading.inner.close)
      return ⟨parent.add (Group.test reading.inner.kind choices), outer⟩
  | .fault error => .error error

end Reading

def read (written : String) : Except Error (List Compound) := do
  let reading ← (tokens written).foldlM Reading.take ⟨.start .whole, []⟩
  unless reading.outer.isEmpty do throw .malformed
  let choices := Group.framedChoices reading.inner.isFramed (← reading.inner.close)
  if mostCompounds < choicesSize choices then throw .tooLarge
  return choices

end MarkupDsl.Selector
