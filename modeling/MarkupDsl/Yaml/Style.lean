import MarkupDsl.Yaml.Tag

/-!
# Styles of scalars

The style in which a text is written: plain if it then reads back as the same text, else between
single quotes, and between double quotes if it holds characters or blanks that single quotes lose.
-/

namespace MarkupDsl.Yaml

inductive Style where
  | plain
  | single
  | double
  deriving DecidableEq, Repr

def isWrittenBreak (c : Char) : Bool :=
  c == '\n' || c == '\x85' || c == '\u2028' || c == '\u2029'

def isShown (c : Char) : Bool :=
  let code := c.toNat
  c == '\n' || (0x20 ≤ code && code ≤ 0x7E) || code == 0x85 ||
  (0xA0 ≤ code && code ≤ 0xFFFD && code != 0xFEFF) || (0x10000 ≤ code && code < 0x10FFFF)

def separates : Option Char → Bool
  | some '\x00' => true
  | c => endsToken c

namespace Style

/-- Whether a text can be taken for a document marker. -/
def isMarker (cs : List Char) : Bool :=
  "---".toList.isPrefixOf cs || "...".toList.isPrefixOf cs

def leadsIndicator : List Char → Bool
  | [] => false
  | c :: rest =>
    "#,[]\x7b\x7d&*!|>'\"%@".toList.contains c || c == '`' ||
    ((c == '?' || c == ':' || c == '-') && separates rest.head?)

/-- Whether a later character would be taken for an indicator; `spaced` tells whether a blank came
before. -/
def holdsIndicator (spaced : Bool) : List Char → Bool
  | [] => false
  | c :: rest =>
    (c == ':' && separates rest.head?) || (c == '#' && spaced) ||
    holdsIndicator (separates (some c)) rest

def breakThenSpace : List Char → Bool
  | c :: d :: rest => (isWrittenBreak c && d == ' ') || breakThenSpace (d :: rest)
  | _ => false

def spaceThenBreak : List Char → Bool
  | c :: d :: rest => (c == ' ' && isWrittenBreak d) || spaceThenBreak (d :: rest)
  | _ => false

def isMultiline (cs : List Char) : Bool := cs.any isWrittenBreak

def hasBlankEnd (cs : List Char) : Bool :=
  let isEnd (c : Option Char) : Bool := c.any fun c => c == ' ' || isWrittenBreak c
  isEnd cs.head? || isEnd cs.getLast?

def allowsSingle (cs : List Char) : Bool :=
  cs.all isShown && !breakThenSpace cs && !spaceThenBreak cs

/-- Whether a text can be written plain outside of flow collections. -/
def allowsPlain (cs : List Char) : Bool :=
  allowsSingle cs && !isMultiline cs && !hasBlankEnd cs && !isMarker cs && !leadsIndicator cs &&
    !holdsIndicator (separates cs.head?) cs.tail

/-- The style of a text; a simple key has to stay on one line. -/
def ofText (isKey : Bool) (cs : List Char) : Style :=
  if Tag.ofPlain cs == .str && allowsPlain cs then .plain
  else if allowsSingle cs && !(isKey && isMultiline cs) then .single
  else .double

end Style

end MarkupDsl.Yaml
