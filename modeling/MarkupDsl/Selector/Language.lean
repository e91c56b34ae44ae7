import MarkupDsl.Html.Location
import MarkupDsl.Text.LowerCase
import MarkupDsl.Text.Split

/-!
# Languages

The language of an element is a tag of parts with hyphens between them, such as `de-Latn-DE`.  A range
covers a tag if its parts occur in the tag in their order, the first part at the start.  An asterisk
stands for any part.
-/

namespace MarkupDsl.Selector

open Html

/-! ## Ranges -/

/-- What follows further asterisks after one that stands alone between hyphens. -/
def skipAsterisks : List Char → List Char
  | '*' :: '-' :: rest => skipAsterisks rest
  | ['*'] => []
  | ['*', '\n'] => ['\n']
  | cs => cs

/-- A range without the asterisks behind its first part; the gap between two parts stands for any
parts in any case. -/
def withoutAsterisks : (bound : Nat) → List Char → List Char
  | 0, cs => cs
  | _ + 1, [] => []
  | bound + 1, c :: rest =>
    match c, rest with
    | '-', '*' :: '-' :: rest => '-' :: withoutAsterisks bound (skipAsterisks rest)
    | '-', ['*'] => ['-']
    | '-', ['*', '\n'] => ['-', '\n']
    | c, rest => c :: withoutAsterisks bound rest

/-- Whether the parts of a range occur among the parts of a tag.  A part of one character may not be
left out of the tag. -/
def partsOccur : (range tag : List (List Char)) → Bool
  | [], _ => true
  | _ :: _, [] => false
  | part :: range, given :: tag =>
    if part.isEmpty then false
    else if given == part then partsOccur range tag
    else if given.length = 1 then false
    else partsOccur (part :: range) tag

def languageParts (cs : List Char) : List (List Char) :=
  Text.splitAtChar '-' (Text.lowerAfter [] cs)

/-- Whether a range covers a tag.  The empty range covers the empty tag, and an asterisk does not. -/
def covers (range tag : String) : Bool :=
  match languageParts (withoutAsterisks range.length range.toList), languageParts tag.toList with
  | [[]], [[]] => true
  | first :: range, given :: tag =>
    (if first == ['*'] then !(given.isEmpty && tag.isEmpty) else first == given) &&
      partsOccur range tag
  | _, _ => false

/-! ## The language of an element -/

def writtenLanguage? (here : Location) : Option String := (here.attribute? "lang").map Value.written

/-- The language that is written at an element or, as long as none is, at the elements around it in
the same frame.  It is empty if an empty one is all that is written. -/
def inheritedLanguage? (here : Location) : Option String :=
  let written := (here :: here.enclosings true).filterMap writtenLanguage?
  (written.find? fun language => !language.isEmpty).or written.head?

def outermostOf (here : Location) : Location := ((here.enclosings true).getLast?).getD here

def headOf? (outermost : Location) : Option Location := do
  let html ← (outermost.innerOf true).find? fun element => element.tag == "html"
  (html.innerOf true).find? fun element => element.tag == "head"

def announcedLanguage? (isLanguage : Bool) (content : Option String) :
    List (String × Value) → Option String
  | [] => none
  | (name, value) :: rest =>
    let written := value.written
    let isLanguage := isLanguage ||
      (Text.plainLower name == "http-equiv" && Text.plainLower written == "content-language")
    let content := if Text.plainLower name == "content" then some written else content
    match isLanguage, content.filter (!·.isEmpty) with
    | true, some language => some language
    | _, _ => announcedLanguage? isLanguage content rest

def headLanguage? (head : Location) : Option String :=
  head.inner.findSome? fun element =>
    if element.tag == "meta" then announcedLanguage? false none element.attributes else none

end MarkupDsl.Selector
