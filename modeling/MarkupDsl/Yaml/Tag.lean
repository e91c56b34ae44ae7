import MarkupDsl.Yaml.Cursor

/-!
# Tags

The kinds of values that a document distinguishes, and the kind that the spelling of a plain scalar
implies.
-/

namespace MarkupDsl.Yaml

inductive Tag where
  | null
  | bool
  | int
  | float
  | timestamp
  | binary
  | str
  | seq
  | map
  | set
  | omap
  | pairs
  | merge
  | value
  | other (name : String)
  deriving DecidableEq, Repr, Inhabited

namespace Tag

def standardStart : String := "tag:yaml.org,2002:"

def standard : List (String × Tag) := [
  ("null", null), ("bool", bool), ("int", int), ("float", float), ("timestamp", timestamp),
  ("binary", binary), ("str", str), ("seq", seq), ("map", map), ("set", set), ("omap", omap),
  ("pairs", pairs), ("merge", merge), ("value", value)]

def ofName (name : String) : Tag :=
  match standard.find? fun entry => standardStart ++ entry.1 == name with
  | some entry => entry.2
  | none => other name

end Tag

/-! ## Spellings of plain scalars -/

def isDigitOrBar (c : Char) : Bool := c.isDigit || c == '_'

def afterSign : List Char → List Char
  | '+' :: rest => rest
  | '-' :: rest => rest
  | cs => cs

def afterDigits? : List Char → Option (List Char)
  | c :: rest => if c.isDigit then some (rest.dropWhile isDigitOrBar) else none
  | [] => none

/-- The rest after sexagesimal places such as `:07`, and how many there were. -/
def afterPlaces : List Char → Nat × List Char
  | ':' :: tens :: units :: rest =>
    if '0' ≤ tens ∧ tens ≤ '5' ∧ units.isDigit then
      let (count, last) := afterPlaces rest
      (count + 1, last)
    else if tens.isDigit then
      let (count, last) := afterPlaces (units :: rest)
      (count + 1, last)
    else (0, ':' :: tens :: units :: rest)
  | [':', digit] => if digit.isDigit then (1, []) else (0, [':', digit])
  | cs => (0, cs)

def isPlaces (cs : List Char) : Bool :=
  let (count, rest) := afterPlaces cs
  count != 0 && rest.isEmpty

def isIntSpelling (cs : List Char) : Bool :=
  match afterSign cs with
  | '0' :: 'b' :: rest => !rest.isEmpty && rest.all fun c => c == '0' || c == '1' || c == '_'
  | '0' :: 'x' :: rest => !rest.isEmpty && rest.all fun c => Text.isHexDigit c || c == '_'
  | '0' :: rest => rest.all fun c => ('0' ≤ c && c ≤ '7') || c == '_'
  | c :: rest =>
    c.isDigit && (rest.all isDigitOrBar || isPlaces (rest.dropWhile isDigitOrBar))
  | [] => false

/-- Whether a text is empty or spelled like a signed exponent. -/
def isExponent : List Char → Bool
  | [] => true
  | e :: sign :: digits =>
    (e == 'e' || e == 'E') && (sign == '+' || sign == '-') && !digits.isEmpty &&
      digits.all Char.isDigit
  | _ => false

def isFloatSpelling (cs : List Char) : Bool :=
  let unsigned := afterSign cs
  let pointed :=
    match afterDigits? unsigned with
    | some ('.' :: rest) => isExponent (rest.dropWhile isDigitOrBar)
    | some rest =>
      let (count, last) := afterPlaces rest
      match last with
      | '.' :: rest => count != 0 && rest.all isDigitOrBar
      | _ => false
    | none => false
  let bare :=
    match cs with
    | '.' :: rest =>
      match afterDigits? rest with
      | some last => isExponent last
      | none => false
    | _ => false
  pointed || bare ||
    [".inf".toList, ".Inf".toList, ".INF".toList].contains unsigned ||
    [".nan".toList, ".NaN".toList, ".NAN".toList].contains cs

def isBoolSpelling (cs : List Char) : Bool :=
  ["yes", "Yes", "YES", "no", "No", "NO", "true", "True", "TRUE", "false", "False", "FALSE",
    "on", "On", "ON", "off", "Off", "OFF"].contains (String.ofList cs)

def isNullSpelling (cs : List Char) : Bool :=
  ["~", "null", "Null", "NULL", ""].contains (String.ofList cs)

/-! ## Timestamps -/

structure TimestampParts where
  year : List Char
  month : List Char
  day : List Char
  time : Option (List Char × List Char × List Char × List Char)
  /-- The sign, hours and minutes of the zone; no sign stands for universal time. -/
  zone : Option (Option Char × List Char × List Char)
  deriving Repr

/-- The first digits, at least `least` and at most `most`, and the rest. -/
def takeDigits? (least most : Nat) (cs : List Char) : Option (List Char × List Char) :=
  let taken := (cs.take most).takeWhile Char.isDigit
  if least ≤ taken.length then some (taken, cs.drop taken.length) else none

def afterChar? (c : Char) : List Char → Option (List Char)
  | d :: rest => if c = d then some rest else none
  | [] => none

def zoneParts? (cs : List Char) : Option (Option (Option Char × List Char × List Char)) :=
  match cs.dropWhile fun c => c == ' ' || c == '\t' with
  | [] => if cs.isEmpty then some none else none
  | ['Z'] => some (some (none, [], []))
  | sign :: rest =>
    if sign == '+' || sign == '-' then
      match takeDigits? 1 2 rest with
      | none => none
      | some (hours, []) => some (some (some sign, hours, []))
      | some (hours, rest) =>
        match (afterChar? ':' rest).bind (takeDigits? 2 2) with
        | some (minutes, []) => some (some (some sign, hours, minutes))
        | _ => none
    else none

/-- The parts of a timestamp, if a text is spelled like one.  Without a time of day, `strict` asks
for two digits in the month and the day. -/
def timestampParts? (strict : Bool) (cs : List Char) : Option TimestampParts := do
  let (year, rest) ← takeDigits? 4 4 cs
  let (month, rest) ← takeDigits? 1 2 (← afterChar? '-' rest)
  let (day, rest) ← takeDigits? 1 2 (← afterChar? '-' rest)
  match rest with
  | [] =>
    if strict && (month.length != 2 || day.length != 2) then none
    else some ⟨year, month, day, none, none⟩
  | c :: after =>
    let rest ←
      if c == 'T' || c == 't' then some after
      else if c == ' ' || c == '\t' then some (after.dropWhile fun c => c == ' ' || c == '\t')
      else none
    let (hour, rest) ← takeDigits? 1 2 rest
    let (minute, rest) ← takeDigits? 2 2 (← afterChar? ':' rest)
    let (second, rest) ← takeDigits? 2 2 (← afterChar? ':' rest)
    let (fraction, rest) :=
      match rest with
      | '.' :: rest => (rest.takeWhile Char.isDigit, rest.dropWhile Char.isDigit)
      | rest => ([], rest)
    let zone ← zoneParts? rest
    some ⟨year, month, day, some (hour, minute, second, fraction), zone⟩

def isTimestampSpelling (cs : List Char) : Bool := (timestampParts? true cs).isSome

def Tag.sign : Tag := .other (standardStart ++ "yaml")

def Tag.ofSpelling (cs : List Char) : Tag :=
  if isBoolSpelling cs then .bool
  else if isFloatSpelling cs then .float
  else if isIntSpelling cs then .int
  else if cs = ['<', '<'] then .merge
  else if isNullSpelling cs then .null
  else if isTimestampSpelling cs then .timestamp
  else if cs = ['='] then .value
  else if cs = ['!'] ∨ cs = ['&'] ∨ cs = ['*'] then .sign
  else .str

/-- The tag of a scalar without a tag of its own.  A line feed at the end does not count, unless it is
all that there is. -/
def Tag.ofPlain (cs : List Char) : Tag :=
  if cs.getLast? = some '\n' then
    if cs.length = 1 then .str else .ofSpelling cs.dropLast
  else .ofSpelling cs

end MarkupDsl.Yaml
