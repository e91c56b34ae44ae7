import MarkupDsl.Html.Character
import MarkupDsl.Html.Tag
import MarkupDsl.Text.LowerCase

/-!
# Tokens of a document

A document is a sequence of texts, tags, comments and declarations.  It is scanned twice: the first
scan stops where the document may go on, the second one takes what is left as it is, so that what
is not finished becomes text.  Inside `script` and `style` everything is text up to the closing tag,
and text that no closing tag follows is lost.
-/

namespace MarkupDsl.Html

open Text

inductive Token where
  | text (data : List Char)
  | opening (name : String) (attributes : List (String × String)) (selfClosing : Bool)
  | closing (name : String)
  | comment (data : List Char)
  | doctype (data : List Char)
  | cdata (data : List Char)
  | declaration (data : List Char)
  | instruction (data : List Char)
  deriving DecidableEq, Repr

/-! ## Closing sequences -/

def matchSpaced? : List (List Char) → List Char → Option (List Char)
  | [], cs => some cs
  | [chunk], cs => removeStart? chunk cs
  | chunk :: chunks, cs =>
    match removeStart? chunk cs with
    | none => none
    | some rest => matchSpaced? chunks (rest.dropWhile isBlank)

def cutAtSpaced? (chunks : List (List Char)) : List Char → Option (List Char × List Char)
  | [] => none
  | c :: cs =>
    match matchSpaced? chunks (c :: cs) with
    | some rest => some ([], rest)
    | none => (cutAtSpaced? chunks cs).map fun parts => (c :: parts.1, parts.2)

def commentClose : List (List Char) := [['-', '-'], ['>']]

def sectionClose : List (List Char) := [[']'], [']'], ['>']]

def conditionalClose : List (List Char) := [[']'], ['>']]

/-! ## Raw text -/

def rawElements : List String := ["script", "style"]

/-- A character as it is compared where case does not count. -/
def unifyCase (c : Char) : Char :=
  if c = 'ſ' then 's' else if c = 'ı' ∨ c = 'İ' then 'i' else c.toLower

def beginsRawClose (name : String) : List Char → Bool
  | '<' :: '/' :: rest =>
    let rest := rest.dropWhile isBlank
    let length := name.toList.length
    (rest.take length).map unifyCase == name.toList &&
      ((rest.drop length).dropWhile isBlank).head? == some '>'
  | _ => false

def cutAtRawClose? (name : String) : List Char → Option (List Char × List Char)
  | [] => none
  | c :: cs =>
    if beginsRawClose name (c :: cs) then some ([], c :: cs)
    else (cutAtRawClose? name cs).map fun parts => (c :: parts.1, parts.2)

/-! ## Steps -/

abbrev RawElement := Option String

/-- What a scan does at a position. -/
inductive Step where
  | next (token : Option Token) (raw : RawElement) (rest : List Char)
  | unfinished
  | stop (text : List Char) (rest : List Char)

def textToken? (text : List Char) : Option Token := if text.isEmpty then none else some (.text text)

def nameOf (name : List Char) : String := lower (String.ofList name)

def resolveAttributes : List WrittenAttribute → Except Error (List (String × String))
  | [] => .ok []
  | (name, value) :: rest => do
    let value ← resolveValue value
    return (nameOf name, String.ofList value) :: (← resolveAttributes rest)

def openingStep (first : Char) (cs : List Char) : Except Error Step :=
  match readTag first cs with
  | .unfinished => .ok .unfinished
  | .interrupted text rest => .ok (.next (some (.text text)) none rest)
  | .complete name attributes selfClosing rest => do
    let name := nameOf name
    let attributes ← resolveAttributes attributes
    let raw := if !selfClosing && rawElements.contains name then some name else none
    return .next (some (.opening name attributes selfClosing)) raw rest

/-- Whether a character can stand inside the name of a plain closing tag. -/
def isClosingNameChar (c : Char) : Bool :=
  c.isAlphanum || c == '-' || c == '.' || c == ':' || c == '_'

/-- The name in a closing tag that holds nothing but a name and blanks, and what follows the tag. -/
def plainClosing? (cs : List Char) : Option (List Char × List Char) :=
  match cs.dropWhile isBlank with
  | [] => none
  | c :: rest =>
    if isLetter c then
      match (rest.dropWhile isClosingNameChar).dropWhile isBlank with
      | '>' :: after => some (c :: rest.takeWhile isClosingNameChar, after)
      | _ => none
    else none

def closingStep (raw : RawElement) (cs : List Char) : Step :=
  match cutAt? ['>'] cs with
  | none => .unfinished
  | some (inside, behind) =>
    match raw, plainClosing? cs with
    | none, some (name, rest) => .next (some (.closing (nameOf name))) none rest
    | some element, some (name, rest) =>
      if nameOf name = element then .next (some (.closing element)) none rest
      else .next (some (.text ('<' :: '/' :: inside ++ ['>']))) raw behind
    | some _, none => .next (some (.text ('<' :: '/' :: inside ++ ['>']))) raw behind
    | none, none =>
      match inside with
      | [] => .next none none behind
      | c :: rest =>
        if isLetter c then
          .next (some (.closing (nameOf (c :: rest.takeWhile isTagNameChar)))) none behind
        else .next (some (.comment inside)) none behind

def sectionKeywords : List String := ["temp", "cdata", "ignore", "include", "rcdata"]

def conditionalKeywords : List String := ["if", "else", "endif"]

/-- Whether a character can stand inside a keyword. -/
def isKeywordChar (c : Char) : Bool := c.isAlphanum || c == '-' || c == '_' || c == '.'

/-- The token of a section: character data if it is announced as such. -/
def sectionToken (data : List Char) : Token :=
  match removeStart? "cdata[".toList (data.map Char.toLower) with
  | some _ => .cdata (data.drop 6)
  | none => .declaration data

def sectionStep (cs : List Char) : Except Error Step :=
  let cut (close : List (List Char)) : Step :=
    match cutAtSpaced? close cs with
    | none => .unfinished
    | some (data, rest) => .next (some (sectionToken data)) none rest
  match cs with
  | [] => .ok .unfinished
  | c :: rest =>
    if !isLetter c then .error .rejected
    else if ((rest.dropWhile isKeywordChar).dropWhile isBlank).isEmpty then .ok .unfinished
    else
      let keyword := nameOf (c :: rest.takeWhile isKeywordChar)
      if sectionKeywords.contains keyword then .ok (cut sectionClose)
      else if conditionalKeywords.contains keyword then .ok (cut conditionalClose)
      else .error .rejected

def bracketStep (token : List Char → Token) (cs : List Char) : Step :=
  match cutAt? ['>'] cs with
  | none => .unfinished
  | some (inside, rest) => .next (some (token inside)) none rest

def declarationStep (cs : List Char) : Except Error Step :=
  match cs with
  | '-' :: '-' :: rest =>
    match cutAtSpaced? commentClose rest with
    | none => .ok .unfinished
    | some (data, rest) => .ok (.next (some (.comment data)) none rest)
  | '[' :: rest => sectionStep rest
  | _ =>
    if nameOf (cs.take 7) = "doctype" then
      .ok (bracketStep (fun inside => .doctype (inside.drop 1)) (cs.drop 7))
    else .ok (bracketStep .comment cs)

def numberStep (cs : List Char) : Except Error Step :=
  let read (base skipped : Nat) (digits : List Char) : Except Error (Option Step) :=
    match (cs.drop (skipped + digits.length)) with
    | [] => .ok none
    | next :: rest =>
      if digits.isEmpty || isHexDigit next then .ok none
      else do
        let code ← referenceNumber base digits
        return some (.next (some (.text [numbered code])) none
          (if next = ';' then rest else next :: rest))
  do
    let found ←
      match cs with
      | 'x' :: more | 'X' :: more => read 16 1 (more.takeWhile isHexDigit)
      | _ => read 10 0 (cs.takeWhile Char.isDigit)
    match found with
    | some step => return step
    | none =>
      if cs.contains ';' then return .stop ['&', '#'] cs else return .stop [] ('&' :: '#' :: cs)

/-- Whether a character can stand inside the name of a reference. -/
def isReferenceChar (c : Char) : Bool := c.isAlphanum || c == '-' || c == '.'

/-- The name of a reference and what follows it.  Something has to follow that belongs to no name;
where only name characters follow, the name ends before the last hyphen or dot. -/
def referenceName? (first : Char) (cs : List Char) : Option (List Char × List Char) :=
  let run := cs.takeWhile isReferenceChar
  match cs.dropWhile isReferenceChar with
  | [] =>
    let tail := (run.reverse.takeWhile Char.isAlphanum).length
    if tail < run.length then
      let length := run.length - tail - 1
      some (first :: run.take length, run.drop length)
    else none
  | rest => some (first :: run, rest)

def referenceStep (final : Bool) (cs : List Char) : Except Error Step :=
  match cs with
  | [] => .ok (.stop [] ['&'])
  | '#' :: rest => numberStep rest
  | c :: rest =>
    if isLetter c then
      match referenceName? c rest with
      | some (name, after) =>
        let text := ((named? name).map (·.text)).getD ('&' :: name)
        .ok (.next (some (.text text)) none (if after.head? = some ';' then after.tail else after))
      | none => .ok (.stop [] (if final && rest.isEmpty then [c] else '&' :: c :: rest))
    else .ok (.next (some (.text ['&'])) none (c :: rest))

def markupStep (raw : RawElement) (cs : List Char) : Except Error Step :=
  match cs with
  | [] => .ok (.stop [] ['<'])
  | '/' :: rest => .ok (closingStep raw rest)
  | '?' :: rest => .ok (bracketStep .instruction rest)
  | '!' :: rest => declarationStep rest
  | c :: rest =>
    if isLetter c then openingStep c rest
    else .ok (.next (some (.text ['<'])) raw (c :: rest))

/-- What an unfinished construct is taken for at the end of a document: text up to the next closing
bracket, or else up to the next opening bracket, or else the bracket alone. -/
def unfinishedText (cs : List Char) : List Char × List Char :=
  match cutAt? ['>'] cs with
  | some (inside, rest) => ('<' :: inside ++ ['>'], rest)
  | none =>
    match cutAt? ['<'] cs with
    | some (inside, rest) => ('<' :: inside, '<' :: rest)
    | none => (['<'], cs)

/-! ## Scans -/

/-- The result of a scan: the tokens, the raw element it ends in, and what it leaves. -/
structure Scan where
  tokens : List Token
  raw : RawElement
  rest : List Char

def Scan.after (tokens : List Token) (scan : Scan) : Scan :=
  { scan with tokens := tokens ++ scan.tokens }

/-- Scan a text.  Every step passes at least one character, so the length of the text bounds their
number. -/
def scanSteps (final : Bool) : (bound : Nat) → RawElement → List Char → Except Error Scan
  | 0, raw, cs => .ok ⟨[], raw, cs⟩
  | _ + 1, raw, [] => .ok ⟨[], raw, []⟩
  | bound + 1, raw, cs@(_ :: _) =>
    let plain (c : Char) : Bool := c != '&' && c != '<'
    let parts := match raw with
      | none => some (cs.takeWhile plain, cs.dropWhile plain)
      | some element => cutAtRawClose? element cs
    match parts with
    | none => .ok ⟨[], raw, cs⟩
    | some (text, at') => do
      let tokens := (textToken? text).toList
      match at' with
      | [] => return ⟨tokens, raw, []⟩
      | mark :: rest =>
        match ← if mark = '<' then markupStep raw rest else referenceStep final rest with
        | .next token raw rest =>
          return (← scanSteps final bound raw rest).after (tokens ++ token.toList)
        | .stop text rest => return ⟨tokens ++ (textToken? text).toList, raw, rest⟩
        | .unfinished =>
          if final then
            let (text, rest) := unfinishedText rest
            return (← scanSteps final bound raw rest).after (tokens ++ [.text text])
          else return ⟨tokens, raw, mark :: rest⟩

/-- The tokens of a document. -/
def tokens (document : List Char) : Except Error (List Token) := do
  let first ← scanSteps false document.length none document
  let second ← scanSteps true first.rest.length first.raw first.rest
  let left := if second.raw.isSome then [] else (textToken? second.rest).toList
  return first.tokens ++ second.tokens ++ left

end MarkupDsl.Html
