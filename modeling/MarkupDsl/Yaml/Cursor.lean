import MarkupDsl.Text.Digits

/-!
# Reading position

A cursor stands in a text and knows its line and column.  The character classes that the token rules
are phrased in are defined here as well.
-/

namespace MarkupDsl.Yaml

/-! ## Character classes -/

def isBreak (c : Char) : Bool :=
  c == '\n' || c == '\r' || c == '\x85' || c == '\u2028' || c == '\u2029'

def endsLine : Option Char → Bool
  | none => true
  | some c => isBreak c

/-- Whether there is no character, or a space, or one that ends a line. -/
def endsWord : Option Char → Bool
  | some ' ' => true
  | c => endsLine c

/-- Whether there is no character, or a blank, or one that ends a line. -/
def endsToken : Option Char → Bool
  | some '\t' => true
  | c => endsWord c

/-- Whether a character may stand in a name: an ASCII letter or digit, a hyphen, an underscore. -/
def isNameChar (c : Char) : Bool := c.isAlphanum || c == '-' || c == '_'

/-- Whether a character may stand in a tag, or introduces an escape there. -/
def isTagChar (c : Char) : Bool :=
  c.isAlphanum || "-;/?:@&=+$,_.!~*'()[]%".toList.contains c

/-- Whether a document may hold a character: tabs, line ends, and all that is not a control. -/
def isAllowed (c : Char) : Bool :=
  let code := c.toNat
  c == '\t' || c == '\n' || c == '\r' || code == 0x85 || (0x20 ≤ code && code ≤ 0x7E) ||
  (0xA0 ≤ code && code ≤ 0xFFFD) || 0x10000 ≤ code

/-! ## Cursors -/

structure Cursor where
  rest : List Char
  index : Nat
  line : Nat
  column : Nat

namespace Cursor

def start (text : List Char) : Cursor := ⟨text, 0, 0, 0⟩

def ahead (cursor : Cursor) (distance : Nat) : Option Char := cursor.rest[distance]?

def here (cursor : Cursor) : Option Char := cursor.rest.head?

/-- The cursor after one character.  A byte order mark takes no column. -/
def next (cursor : Cursor) : Cursor :=
  match cursor.rest with
  | [] => cursor
  | c :: rest =>
    if isBreak c && !(c == '\r' && rest.head? == some '\n') then
      ⟨rest, cursor.index + 1, cursor.line + 1, 0⟩
    else if c == '\ufeff' then ⟨rest, cursor.index + 1, cursor.line, cursor.column⟩
    else ⟨rest, cursor.index + 1, cursor.line, cursor.column + 1⟩

def skip (cursor : Cursor) : (count : Nat) → Cursor
  | 0 => cursor
  | count + 1 => cursor.next.skip count

def span (cursor : Cursor) (p : Char → Bool) : List Char × Cursor :=
  let taken := cursor.rest.takeWhile p
  (taken, cursor.skip taken.length)

def skipWhile (cursor : Cursor) (p : Char → Bool) : Cursor := (cursor.span p).2

def skipSpaces (cursor : Cursor) : Cursor := cursor.skipWhile (· == ' ')

def skipComment (cursor : Cursor) : Cursor :=
  if cursor.here == some '#' then cursor.skipWhile fun c => !isBreak c else cursor

/-- The line end at the cursor as it counts in a text, if there is one, and the cursor after it. -/
def lineBreak? (cursor : Cursor) : Option (Char × Cursor) :=
  match cursor.rest with
  | '\r' :: '\n' :: _ => some ('\n', cursor.skip 2)
  | c :: _ =>
    if c == '\u2028' || c == '\u2029' then some (c, cursor.next)
    else if isBreak c then some ('\n', cursor.next)
    else none
  | [] => none

def skipLineBreak (cursor : Cursor) : Cursor :=
  match cursor.lineBreak? with
  | some (_, after) => after
  | none => cursor

def atMarker (cursor : Cursor) (c : Char) : Bool :=
  [c, c, c].isPrefixOf cursor.rest && endsToken (cursor.ahead 3)

def atSeparator (cursor : Cursor) : Bool := cursor.atMarker '-' || cursor.atMarker '.'

end Cursor

end MarkupDsl.Yaml
