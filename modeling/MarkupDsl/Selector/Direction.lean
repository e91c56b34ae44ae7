import MarkupDsl.Html.Location
import MarkupDsl.Text.DirectionTable
import MarkupDsl.Text.LowerCase

/-!
# Directions

The direction in which an element is written.  It is given by an attribute, or found in the text, or
taken over from the element around it.
-/

namespace MarkupDsl.Selector

open Html

def leftToRight? (c : Char) : Option Bool :=
  if Text.inRanges Text.leftToRightRanges c.toNat then some true
  else if Text.inRanges Text.rightToLeftRanges c.toNat then some false
  else none

inductive GivenDirection where
  | leftToRight
  | rightToLeft
  | byText
  deriving DecidableEq, Repr

def GivenDirection.ofValue? (value : String) : Option GivenDirection :=
  match Text.plainLower value with
  | "ltr" => some leftToRight
  | "rtl" => some rightToLeft
  | "auto" => some byText
  | _ => none

def GivenDirection.ofAttributes? (attributes : List (String × Value)) : Option GivenDirection :=
  (attributes.lookup "dir").bind fun value => ofValue? value.written

/-- The elements whose text does not decide about the direction of the elements around them. -/
def isolatedElements : List String := ["bdi", "script", "style", "textarea", "iframe"]

mutual

def treeLeftToRight? : Tree → Option Bool
  | .element name attributes children =>
    if isolatedElements.contains (Text.plainLower name) ||
        (GivenDirection.ofAttributes? attributes).isSome then none
    else treesLeftToRight? children
  | .string kind data => if kind.isText then data.toList.findSome? leftToRight? else none
  | .foreign _ => none

def treesLeftToRight? : List Tree → Option Bool
  | [] => none
  | tree :: trees => (treeLeftToRight? tree).or (treesLeftToRight? trees)

end

def ownText (children : List Tree) : List Char :=
  children.flatMap fun child =>
    match child with
    | .string kind data => if kind.isText then data.toList else []
    | .element .. | .foreign _ => []

def textInputs : List String := ["text", "search", "tel", "url", "email"]

/-- Whether an element is written from the left to the right; the outermost element is unless it says
otherwise.  An element that nothing is known about has no direction. -/
def isLeftToRight? : Location → Option Bool
  | .document _ => none
  | .element name attributes children before after parent =>
    let here := Location.element name attributes children before after parent
    let given := GivenDirection.ofAttributes? attributes
    let kind := (here.written? "type").map Text.plainLower
    let isInput := here.tag == "input"
    let inherited := if here.isOutermost then some true else isLeftToRight? parent
    let byText (text : List Char) : Option Bool :=
      if text.isEmpty then inherited else some ((text.findSome? leftToRight?).getD true)
    match given with
    | some .leftToRight => some true
    | some .rightToLeft => some false
    | some .byText =>
      if here.tag == "textarea" then byText (ownText children)
      else if isInput && textInputs.contains (kind.getD "") then
        byText ((here.written? "value").getD "").toList
      else (treesLeftToRight? children).or inherited
    | none =>
      if here.isOutermost || (isInput && kind == some "tel") then some true
      else if here.tag == "bdi" then (treesLeftToRight? children).or inherited
      else inherited

end MarkupDsl.Selector
