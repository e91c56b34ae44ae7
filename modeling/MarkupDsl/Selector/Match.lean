import MarkupDsl.Selector.Direction
import MarkupDsl.Selector.Range
import MarkupDsl.Selector.Search
import MarkupDsl.Text.Blank
import MarkupDsl.Text.CaseClass
import MarkupDsl.Text.Split

/-!
# Matching

When an element passes a test.  Names of elements and attributes are compared without regard to case,
values with regard to it unless the test says otherwise.
-/

namespace MarkupDsl.Selector

open Html

/-! ## Values of attributes -/

def separatesWords (c : Char) : Bool :=
  c == ' ' || c == '\t' || c == '\r' || c == '\n' || c == '\x0c'

def words : List Char → List (List Char)
  | [] => [[]]
  | c :: rest =>
    if separatesWords c then [] :: words rest
    else
      match words rest with
      | [] => [[c]]
      | word :: others => (c :: word) :: others

def withoutLineFeed (cs : List Char) : List Char :=
  if cs.getLast? = some '\n' then cs.dropLast else cs

def endsWith (ending cs : List Char) : Bool := ending.reverse.isPrefixOf cs.reverse

/-- Whether a value passes a comparison.  A line feed at the end of the value may be left out of
account where the comparison reaches the end. -/
def Comparison.holds (expected actual : List Char) : Comparison → Bool
  | equal => actual == expected || withoutLineFeed actual == expected
  | beginning => expected.isPrefixOf actual
  | ending => endsWith expected actual || endsWith expected (withoutLineFeed actual)
  | part => Text.occurs expected actual
  | word => (words actual).contains expected
  | dashed =>
    actual == expected || withoutLineFeed actual == expected ||
      (expected ++ ['-']).isPrefixOf actual

def ValueTest.holds (test : ValueTest) (actual : List Char) : Bool :=
  if test.anyCase then
    test.comparison.holds (test.value.map Text.withoutCase) (actual.map Text.withoutCase)
  else test.comparison.holds test.value actual

/-! ## Contents -/

def fills : Tree → Bool
  | .element .. => true
  | .string kind data => kind.isText && !data.toList.all separatesWords
  | .foreign _ => false

def competes : Tree → Bool
  | .element .. => true
  | .string kind data => kind == .cdata || (kind.isText && !Text.blank data)
  | .foreign _ => false

def ownText? : Tree → Option (List Char)
  | .string kind data => if kind.isText then some data.toList else none
  | .element .. | .foreign _ => none

mutual

/-- The text in a node; if asked to keep to frames, without the text in frames. -/
def textIn (framed : Bool) : Tree → List Char
  | .element name _ children =>
    if framed && Text.plainLower name == "iframe" then [] else textInAll framed children
  | .string kind data => if kind.isText then data.toList else []
  | .foreign _ => []

def textInAll (framed : Bool) : List Tree → List Char
  | [] => []
  | tree :: trees => textIn framed tree ++ textInAll framed trees

end

/-- Whether an element is the only content around it, blanks and comments apart. -/
def isRoot (here : Location) : Bool :=
  here.isOutermost && !here.before.any competes && !here.after.any competes

def isScope (here : Location) : Bool :=
  match here.parent? with
  | some (.document _) => !here.before.any Tree.isElement
  | _ => false

def isEmpty (here : Location) : Bool := !here.children.any fills

/-- Whether an element holds no text, or a line feed alone. -/
def isTextless (here : Location) : Bool :=
  let text := textInAll false here.children
  text == [] || text == ['\n']

/-- Whether one of the texts is found in an element.  A frame holds no text. -/
def holdsText (pieces own : Bool) (texts : List (List Char)) (here : Location) : Bool :=
  let children := if here.isFrame then [] else here.children
  let parts := children.filterMap ownText?
  let whole := textInAll true children
  match pieces, own with
  | true, true => parts.any fun part => texts.any (Text.occurs · part)
  | true, false => texts.any parts.contains
  | false, true => whole.any fun c => texts.any (Text.occurs · [c])
  | false, false => texts.any (Text.occurs · whole)

/-! ## Forms -/

def formOf? (here : Location) : Option Location :=
  let around := here.enclosings true
  (around.find? fun other => other.tag == "form").or around.getLast?

/-- Whether an attribute of an element has a value, whatever its case. -/
def isOfKind (kind : String) (here : Location) : Bool :=
  (here.written? "type").map Text.plainLower == some kind

def sendsForm (here : Location) : Bool :=
  match formOf? here with
  | none => false
  | some form =>
    let parts := (form.inside true).takeWhile fun part => part.tag != "form"
    let sends (part : Location) : Bool :=
      (part.tag == "input" || part.tag == "button") && isOfKind "submit" part
    ((parts.find? sends).map Location.address) == some here.address

/-- Whether no radio button of the name of an element is checked in its form. -/
def noneChecked (here : Location) : Bool :=
  match formOf? here with
  | none => true
  | some form =>
    let isChecked (part : Location) : Bool :=
      part.tag == "input" && part.address != here.address && isOfKind "radio" part &&
        part.written? "name" == here.written? "name" && (part.attribute? "checked").isSome &&
        (formOf? part).map Location.address == some form.address
    !(form.inside true).any isChecked

/-! ## Names and positions -/

/-- Whether an element has a name.  All elements belong to the space `html`, which is known only where
frames are kept to, so that a name with another space, or with an empty one, is the name of none. -/
def hasName (framed : Bool) (space : Option String) (name : String) (here : Location) : Bool :=
  (space == none || space == some "*" || (framed && space == some "html")) &&
    (name == "*" || Text.plainLower name == here.tag)

def isDefined (here : Location) : Bool :=
  !here.name.toList.contains '-' || here.name.toList.contains ':'

def tooManySteps : Nat := Nat.pow 2 1024 - Nat.pow 2 970

/-- Whether a position belongs to a progression.  A single position is one from the first on. -/
def Progression.reaches (progression : Progression) (position : Nat) : Except Undecided Bool :=
  let distance := (position : Int) - progression.offset
  if progression.isSingle || progression.step = 0 then
    .ok (distance == 0 && position != 0)
  else if tooManySteps * progression.step.natAbs ≤ distance.natAbs then .error .tooFar
  else .ok (distance % progression.step == 0 && 0 ≤ distance / progression.step)

/-- The position of an element behind which, or in front of which, `others` count.  Positions from the
end are counted on from the sibling that was asked first, and where that one does not count itself,
the count behind it is one short. -/
def positionOf (fromEnd : Bool) (first : Option Question) (others : Nat) (here : Location) : Nat :=
  let isShort (first : Question) : Bool := !first.counts && first.number < here.before.length
  if fromEnd && first.any isShort then others else others + 1

/-- The siblings that count as standing behind an element whose row was asked before.  They are those
behind the next node; behind the last node the whole row counts. -/
def siblingsAskedAgain (here : Location) : List Location :=
  match here.after with
  | [] => (here.parent?.map Location.inner).getD []
  | .element .. :: _ => here.next.drop 1
  | _ => here.next

/-! ## Tests -/

mutual

/-- Whether an element passes a test. -/
def Test.holds (framed : Bool) (here : Location) : Test → Search Bool
  | .never => pure false
  | .type space name => pure (hasName framed space name here)
  | .id value => pure (((here.attribute? "id").map Value.written).getD "" == value)
  | .word value =>
    pure (!value.isEmpty &&
      (((here.attribute? "class").map fun v => words v.written.toList).getD []).contains
        value.toList)
  | .attribute name none => pure (here.attribute? name).isSome
  | .attribute name (some test) =>
    pure (((here.attribute? name).map fun v => test.holds v.written.toList).getD false)
  | .language ranges => do
    return ((← Search.languageOf? here).map fun language => ranges.any (covers · language)).getD false
  | .direction leftToRight => pure (isLeftToRight? here == some leftToRight)
  | .root => pure (isRoot here)
  | .scope => pure (isScope here)
  | .empty => pure (isEmpty here)
  | .defined => pure (isDefined here)
  | .textless => pure (isTextless here)
  | .position place progression fromEnd sameName among => do
    let siblings := (if fromEnd then here.next else here.previous).filter fun other =>
      !sameName || other.tag == here.tag
    if among.isEmpty then progression.reaches (siblings.length + 1)
    else
      let counts ← holdsOne framed here among
      let first ← Search.ask place here counts
      if counts then
        let others ← siblings.filterM fun other => holdsOne framed other among
        progression.reaches (positionOf fromEnd first others.length here)
      else pure false
  | .oneOf choices => holdsOne framed here choices
  | .noneOf choices => do return !(← holdsOne framed here choices)
  | .after .descendant tests =>
    (here.enclosings framed).anyM fun other => holdsAll framed other tests
  | .after .child tests =>
    (here.enclosing? framed).toList.anyM fun other => holdsAll framed other tests
  | .after .sibling tests => here.previous.anyM fun other => holdsAll framed other tests
  | .after .adjacent tests =>
    here.previous.head?.toList.anyM fun other => holdsAll framed other tests
  | .before _ .descendant tests =>
    (here.inside framed).anyM fun other => holdsAll framed other tests
  | .before _ .child tests => (here.innerOf framed).anyM fun other => holdsAll framed other tests
  | .before place .sibling tests => do
    let asked ← Search.ask place here true
    (if asked.isSome then siblingsAskedAgain here else here.next).anyM fun other =>
      holdsAll framed other tests
  | .before _ .adjacent tests =>
    here.next.head?.toList.anyM fun other => holdsAll framed other tests
  | .contains pieces own texts => pure (holdsText pieces own texts here)
  | .framed test => test.holds true here
  | .sendsForm => pure (sendsForm here)
  | .noneChecked => pure (noneChecked here)
  | .range inside => keepsBounds inside here

/-- Whether an element passes all tests of a compound.  Lists of selectors that stand together are all
asked, even if the element does not pass one of them. -/
def holdsAll (framed : Bool) (here : Location) : List Test → Search Bool
  | [] => pure true
  | test :: tests => do
    if ← test.holds framed here then holdsAll framed here tests
    else
      if test.isList then askLists framed here tests
      pure false

def askLists (framed : Bool) (here : Location) : List Test → Search Unit
  | [] => pure ()
  | test :: tests => do
    if test.isList then
      let _ ← test.holds framed here
      askLists framed here tests

def holdsOne (framed : Bool) (here : Location) : List (List Test) → Search Bool
  | [] => pure false
  | choice :: choices => do
    if ← holdsAll framed here choice then pure true else holdsOne framed here choices

end

def firstMatch? (choices : List Compound) (document : List Tree) :
    Except Undecided (Option Location) :=
  Search.result
    ((Location.inside false (.document document)).findM? fun here => holdsOne false here choices)

end MarkupDsl.Selector
