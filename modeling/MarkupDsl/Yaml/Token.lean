import MarkupDsl.Yaml.Scalar

/-!
# Tokens

A document as a sequence of tokens.  Indentation is made explicit by tokens that open and close block
collections.  That a scalar is a key is known only at the colon after it; the tokens that say so are
then put in front of it.
-/

namespace MarkupDsl.Yaml

inductive Directive where
  | version (major : Nat)
  | tagHandle (handle start : String)
  | other
  deriving DecidableEq, Repr

inductive Token where
  | directive (directive : Directive)
  | documentStart
  | documentEnd
  | streamEnd
  | blockSequenceStart
  | blockMappingStart
  | blockEnd
  | flowSequenceStart
  | flowSequenceEnd
  | flowMappingStart
  | flowMappingEnd
  | flowEntry
  | blockEntry
  | key
  | value
  | alias (name : String)
  | anchor (name : String)
  /-- A tag; without a handle it is written out in full. -/
  | tag (handle : Option String) (suffix : String)
  | scalar (text : ScalarText) (isPlain : Bool)
  deriving DecidableEq, Repr, Inhabited

/-! ## Names, tags and directives -/

def anchorName (cursor : Cursor) : Except Error (String × Cursor) :=
  let (name, after) := cursor.span isNameChar
  if name.isEmpty then .error (.malformed "an anchor has a name")
  else if endsToken after.here || (after.here.any fun c => "?:,]\x7d%@".toList.contains c || c == '`')
  then .ok (String.ofList name, after)
  else .error (.malformed "an anchor ends with its name")

def tagEscapes (cursor : Cursor) : (fuel : Nat) → Except Error (List UInt8 × Cursor)
  | 0 => .ok ([], cursor)
  | fuel + 1 =>
    match cursor.rest with
    | '%' :: high :: low :: _ =>
      if Text.isHexDigit high && Text.isHexDigit low then do
        let (bytes, last) ← tagEscapes (cursor.skip 3) fuel
        return (UInt8.ofNat (Text.digitsValue 16 [high, low]) :: bytes, last)
      else .error (.malformed "an escape in a tag has two digits")
    | '%' :: _ => .error (.malformed "an escape in a tag has two digits")
    | _ => .ok ([], cursor)

def tagPieces (cursor : Cursor) : (fuel : Nat) → Except Error (List Char × Cursor)
  | 0 => .ok ([], cursor)
  | fuel + 1 =>
    let (taken, after) := cursor.span fun c => isTagChar c && c != '%'
    if after.here == some '%' then do
      let (bytes, next) ← tagEscapes after after.rest.length
      match String.fromUTF8? (ByteArray.mk bytes.toArray) with
      | none => throw (.malformed "escapes in a tag make up characters")
      | some text =>
        let (more, last) ← tagPieces next fuel
        return (taken ++ text.toList ++ more, last)
    else .ok (taken, after)

def tagUri (cursor : Cursor) : Except Error (String × Cursor) := do
  let (chars, after) ← tagPieces cursor (cursor.rest.length + 1)
  if cursor.here.any isTagChar then return (String.ofList chars, after)
  else throw (.malformed "a tag has characters")

def tagHandle (cursor : Cursor) : Except Error (String × Cursor) :=
  if cursor.here != some '!' then .error (.malformed "a handle begins with its sign")
  else if cursor.next.here == some ' ' then .ok ("!", cursor.next)
  else
    let (name, after) := cursor.next.span isNameChar
    if after.here == some '!' then .ok ("!" ++ String.ofList name ++ "!", after.next)
    else .error (.malformed "a handle ends with its sign")

def tagToken (cursor : Cursor) : Except Error (Token × Cursor) := do
  let (token, after) ←
    if cursor.ahead 1 == some '<' then do
      let (suffix, after) ← tagUri (cursor.skip 2)
      if after.here == some '>' then pure (Token.tag none suffix, after.next)
      else throw (.malformed "a full tag is closed")
    else if endsToken (cursor.ahead 1) then pure (Token.tag none "!", cursor.next)
    else
      let word := cursor.next.rest.takeWhile fun c => !endsWord (some c)
      if word.contains '!' then do
        let (handle, after) ← tagHandle cursor
        let (suffix, after) ← tagUri after
        pure (Token.tag (some handle) suffix, after)
      else do
        let (suffix, after) ← tagUri cursor.next
        pure (Token.tag (some "!") suffix, after)
  if endsWord after.here then return (token, after)
  else throw (.malformed "a tag ends with its word")

def versionNumber (cursor : Cursor) : Except Error (Nat × Cursor) :=
  let (digits, after) := cursor.span Char.isDigit
  if digits.isEmpty then .error (.malformed "a version has digits")
  else if Text.mostDigits < digits.length then .error .numberTooLong
  else .ok (Text.digitsValue 10 digits, after)

def directiveContent (name : List Char) (cursor : Cursor) : Except Error (Directive × Cursor) :=
  if name = "YAML".toList then do
    let (major, after) ← versionNumber cursor.skipSpaces
    if after.here != some '.' then throw (.malformed "a version has a point")
    let (_, after) ← versionNumber after.next
    if endsWord after.here then return (.version major, after)
    else throw (.malformed "a version ends with its word")
  else if name = "TAG".toList then do
    let (handle, after) ← tagHandle cursor.skipSpaces
    if after.here != some ' ' then throw (.malformed "a handle ends with its word")
    let (start, after) ← tagUri after.skipSpaces
    if endsWord after.here then return (.tagHandle handle start, after)
    else throw (.malformed "a tag ends with its word")
  else .ok (.other, cursor.skipWhile fun c => !isBreak c)

def directiveToken (cursor : Cursor) : Except Error (Token × Cursor) := do
  let (name, after) := cursor.next.span isNameChar
  if name.isEmpty then throw (.malformed "a directive has a name")
  if !endsWord after.here then throw (.malformed "a directive's name ends with its word")
  let (directive, after) ← directiveContent name after
  return (.directive directive, ← skipRestOfLine after)

/-! ## The scanner -/

/-- A place where a key may have begun. -/
structure SimpleKey where
  position : Nat
  /-- Whether the place can hold nothing but a key. -/
  required : Bool
  index : Nat
  line : Nat
  column : Nat

structure Scanner where
  cursor : Cursor
  tokens : List Token
  indent : Int
  indents : List Int
  flowLevel : Nat
  keyAllowed : Bool
  keys : List (Nat × SimpleKey)

namespace Scanner

def start (text : List Char) : Scanner := ⟨.start text, [], -1, [], 0, true, []⟩

def emit (s : Scanner) (token : Token) : Scanner := { s with tokens := token :: s.tokens }

def emitAt (s : Scanner) (token : Token) (cursor : Cursor) : Scanner :=
  { s with tokens := token :: s.tokens, cursor := cursor }

def insertAt (s : Scanner) (position : Nat) (token : Token) : Scanner :=
  { s with tokens := s.tokens.insertIdx (s.tokens.length - position) token }

def possibleKey? (s : Scanner) : Option SimpleKey := s.keys.lookup s.flowLevel

/-- The scanner without the possible key of the current flow level. -/
def dropKey (s : Scanner) : Scanner :=
  { s with keys := s.keys.filter fun entry => entry.1 != s.flowLevel }

/-- Give up the possible key of the current flow level, unless it had to be one. -/
def removeKey (s : Scanner) : Except Error Scanner :=
  match s.possibleKey? with
  | some key =>
    if key.required then .error (.malformed "a key is followed by a colon") else .ok s.dropKey
  | none => .ok s

def saveKey (s : Scanner) : Except Error Scanner := do
  if s.keyAllowed then
    let required := s.flowLevel == 0 && s.indent == s.cursor.column
    let s ← s.removeKey
    let key : SimpleKey :=
      ⟨s.tokens.length, required, s.cursor.index, s.cursor.line, s.cursor.column⟩
    return { s with keys := (s.flowLevel, key) :: s.keys }
  else return s

/-- Whether a possible key began on another line or too far back. -/
def isStale (s : Scanner) (key : SimpleKey) : Bool :=
  key.line != s.cursor.line || 1024 < s.cursor.index - key.index

def dropStaleKeys (s : Scanner) : Except Error Scanner :=
  if s.keys.any fun entry => s.isStale entry.2 && entry.2.required then
    .error (.malformed "a key is followed by a colon")
  else .ok { s with keys := s.keys.filter fun entry => !s.isStale entry.2 }

def unwind (s : Scanner) (column : Int) : Scanner :=
  if s.flowLevel != 0 then s
  else
    let rec close (indent : Int) : List Int → List Token → Int × List Int × List Token
      | [], tokens => (indent, [], tokens)
      | outer :: rest, tokens =>
        if column < indent then close outer rest (.blockEnd :: tokens)
        else (indent, outer :: rest, tokens)
    let (indent, indents, tokens) := close s.indent s.indents s.tokens
    { s with indent, indents, tokens }

/-- Open a block collection at a column, with its token put at a position, unless it is open. -/
def openBlock (s : Scanner) (column position : Nat) (token : Token) : Scanner :=
  if s.indent < column then
    { s.insertAt position token with indent := column, indents := s.indent :: s.indents }
  else s

def skipToToken (s : Scanner) : (fuel : Nat) → Scanner
  | 0 => s
  | fuel + 1 =>
    let after := s.cursor.skipSpaces.skipComment
    match after.lineBreak? with
    | some (_, next) =>
      skipToToken { s with cursor := next, keyAllowed := s.keyAllowed || s.flowLevel == 0 } fuel
    | none => { s with cursor := after }

def fetchEnd (s : Scanner) : Except Error Scanner := do
  let s ← (s.unwind (-1)).removeKey
  return { s.emit .streamEnd with keyAllowed := false, keys := [] }

def fetchDirective (s : Scanner) : Except Error Scanner := do
  let s ← (s.unwind (-1)).removeKey
  let (token, after) ← directiveToken s.cursor
  return { s.emitAt token after with keyAllowed := false }

def fetchMarker (s : Scanner) (token : Token) : Except Error Scanner := do
  let s ← (s.unwind (-1)).removeKey
  return { s.emitAt token (s.cursor.skip 3) with keyAllowed := false }

def fetchFlowStart (s : Scanner) (token : Token) : Except Error Scanner := do
  let s ← s.saveKey
  return { s.emitAt token s.cursor.next with flowLevel := s.flowLevel + 1, keyAllowed := true }

def fetchFlowEnd (s : Scanner) (token : Token) : Except Error Scanner := do
  let s ← s.removeKey
  return { s.emitAt token s.cursor.next with flowLevel := s.flowLevel - 1, keyAllowed := false }

def fetchFlowEntry (s : Scanner) : Except Error Scanner := do
  let s ← { s with keyAllowed := true }.removeKey
  return s.emitAt .flowEntry s.cursor.next

def fetchBlockEntry (s : Scanner) : Except Error Scanner := do
  if s.flowLevel == 0 && !s.keyAllowed then
    throw (.malformed "an entry begins its line")
  let s := if s.flowLevel == 0 then s.openBlock s.cursor.column s.tokens.length .blockSequenceStart else s
  let s ← { s with keyAllowed := true }.removeKey
  return s.emitAt .blockEntry s.cursor.next

def fetchKey (s : Scanner) : Except Error Scanner := do
  if s.flowLevel == 0 && !s.keyAllowed then
    throw (.malformed "a key begins its line")
  let s := if s.flowLevel == 0 then s.openBlock s.cursor.column s.tokens.length .blockMappingStart else s
  let s ← { s with keyAllowed := s.flowLevel == 0 }.removeKey
  return s.emitAt .key s.cursor.next

def fetchValue (s : Scanner) : Except Error Scanner := do
  match s.possibleKey? with
  | some key =>
    let s := s.dropKey
    let s := s.insertAt key.position .key
    let s :=
      if s.flowLevel == 0 then s.openBlock key.column key.position .blockMappingStart else s
    return { s.emitAt .value s.cursor.next with keyAllowed := false }
  | none =>
    if s.flowLevel == 0 && !s.keyAllowed then
      throw (.malformed "a value follows its key")
    let s :=
      if s.flowLevel == 0 then s.openBlock s.cursor.column s.tokens.length .blockMappingStart else s
    let s ← { s with keyAllowed := s.flowLevel == 0 }.removeKey
    return s.emitAt .value s.cursor.next

def fetchNodePart (s : Scanner) (read : Cursor → Except Error (Token × Cursor)) :
    Except Error Scanner := do
  let s ← s.saveKey
  let (token, after) ← read s.cursor
  return { s.emitAt token after with keyAllowed := false }

def fetchBlockScalar (s : Scanner) (folded : Bool) : Except Error Scanner := do
  let s ← { s with keyAllowed := true }.removeKey
  let (text, after) ← blockScalar folded s.indent s.cursor
  return s.emitAt (.scalar text false) after

def fetchQuoted (s : Scanner) (double : Bool) : Except Error Scanner :=
  s.fetchNodePart fun cursor => do
    let (text, after) ← quotedScalar double cursor
    return (.scalar text false, after)

def fetchPlain (s : Scanner) : Except Error Scanner := do
  let s ← s.saveKey
  let ((chars, newLine), after) := plainScalar (s.flowLevel != 0) s.indent s.cursor
  return { s.emitAt (.scalar (.plain chars) true) after with keyAllowed := newLine }

/-- Whether a plain scalar may begin with a character that is followed by another. -/
def beginsPlain (inFlow : Bool) (c : Char) (following : Option Char) : Bool :=
  !(endsToken (some c) || "-?:,[]\x7b\x7d#&*!|>'\"%@".toList.contains c || c == '`') ||
  (!endsToken following && (c == '-' || (!inFlow && (c == '?' || c == ':'))))

/-- The next token; the cursor stands at its first character. -/
def fetchToken (s : Scanner) : Except Error Scanner :=
  let inFlow := s.flowLevel != 0
  let atLineStart := s.cursor.column == 0
  let following := s.cursor.ahead 1
  match s.cursor.here with
  | none => s.fetchEnd
  | some c =>
    if c == '%' && atLineStart then s.fetchDirective
    else if atLineStart && s.cursor.atMarker '-' then s.fetchMarker .documentStart
    else if atLineStart && s.cursor.atMarker '.' then s.fetchMarker .documentEnd
    else if c == '[' then s.fetchFlowStart .flowSequenceStart
    else if c == '\x7b' then s.fetchFlowStart .flowMappingStart
    else if c == ']' then s.fetchFlowEnd .flowSequenceEnd
    else if c == '\x7d' then s.fetchFlowEnd .flowMappingEnd
    else if c == ',' then s.fetchFlowEntry
    else if c == '-' && endsToken following then s.fetchBlockEntry
    else if c == '?' && (inFlow || endsToken following) then s.fetchKey
    else if c == ':' && (inFlow || endsToken following) then s.fetchValue
    else if c == '*' then
      s.fetchNodePart fun cursor => do
        let (name, after) ← anchorName cursor.next
        return (.alias name, after)
    else if c == '&' then
      s.fetchNodePart fun cursor => do
        let (name, after) ← anchorName cursor.next
        return (.anchor name, after)
    else if c == '!' then s.fetchNodePart tagToken
    else if c == '|' && !inFlow then s.fetchBlockScalar false
    else if c == '>' && !inFlow then s.fetchBlockScalar true
    else if c == '\'' then s.fetchQuoted false
    else if c == '"' then s.fetchQuoted true
    else if beginsPlain inFlow c following then s.fetchPlain
    else .error (.malformed "a token begins with a character that can begin one")

/-- One round: go to the next token, close what ends before it, and read it. -/
def step (s : Scanner) : Except Error Scanner := do
  let s := s.skipToToken (s.cursor.rest.length + 1)
  let s ← s.dropStaleKeys
  (s.unwind s.cursor.column).fetchToken

/-- The number of tokens that are known to stand in their place.  What may still turn out to be a key
may get further tokens in front of it. -/
def settled (s : Scanner) : Nat :=
  (s.keys.filter fun entry => !s.isStale entry.2).foldl
    (fun least entry => min least entry.2.position) s.tokens.length

/-- The tokens of the rest of the text, and the fault that ends them if there is one.  The fault comes
before the tokens that are not settled. -/
def run (s : Scanner) : (fuel : Nat) → List Token × Option Error
  | 0 => (s.tokens.reverse, none)
  | fuel + 1 =>
    match s.step with
    | .error error => (s.tokens.reverse.take s.settled, some error)
    | .ok next =>
      if next.tokens.head? == some .streamEnd then (next.tokens.reverse, none) else next.run fuel

end Scanner

def tokens (text : List Char) : List Token × Option Error :=
  let text := if text.head? = some '\ufeff' then text.tail else text
  (Scanner.start text).run (text.length + 2)

end MarkupDsl.Yaml
