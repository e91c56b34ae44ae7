import MarkupDsl.Decimal.Scaled
import MarkupDsl.Text.Blank
import MarkupDsl.Yaml.Error
import MarkupDsl.Yaml.Tag

/-!
# Numbers

The values of spelled numbers: decimal, binary, octal, hexadecimal and sexagesimal integers, decimal
and sexagesimal fractions.  Underscores between digits do not count.
-/

namespace MarkupDsl.Yaml.Number

/-- Whether the characters are digits of a base, at least one of them. -/
def areDigits (base : Nat) (cs : List Char) : Bool :=
  !cs.isEmpty && cs.all fun c => Text.isHexDigit c && Text.digitValue c < base

/-- An integer in a base, with an optional sign and blanks around it.  The base may be announced. -/
def signedInt? (base : Nat) (cs : List Char) : Option Int :=
  let trimmed := (Text.trimBlanks cs).map Text.plainDigit
  let negative := trimmed.head? == some '-'
  let digits :=
    match base, afterSign trimmed with
    | 2, '0' :: 'b' :: rest | 2, '0' :: 'B' :: rest => rest
    | 8, '0' :: 'o' :: rest | 8, '0' :: 'O' :: rest => rest
    | 16, '0' :: 'x' :: rest | 16, '0' :: 'X' :: rest => rest
    | _, rest => rest
  if areDigits base digits && (base != 10 || digits.length ≤ Text.mostDigits) then
    let size : Int := Text.digitsValue base digits
    some (if negative then -size else size)
  else none

def places : List Char → List (List Char)
  | [] => [[]]
  | c :: rest =>
    if c == ':' then [] :: places rest
    else
      match places rest with
      | [] => [[c]]
      | piece :: pieces => (c :: piece) :: pieces

def int (cs : List Char) : Except Error Int :=
  let cs := cs.filter (· != '_')
  match cs with
  | [] => .error .emptyNumber
  | first :: _ =>
    let unsigned := if first == '+' || first == '-' then cs.tail else cs
    let value? : Except Error (Option Int) :=
      match unsigned with
      | ['0'] => .ok (some 0)
      | '0' :: 'b' :: rest => .ok (signedInt? 2 rest)
      | '0' :: 'x' :: rest => .ok (signedInt? 16 rest)
      | '0' :: _ => .ok (signedInt? 8 unsigned)
      | [] => .error .emptyNumber
      | _ =>
        if unsigned.contains ':' then
          .ok ((places unsigned).foldl
            (fun total place => do return (← total) * 60 + (← signedInt? 10 place)) (some 0))
        else .ok (signedInt? 10 unsigned)
    match value? with
    | .error error => .error error
    | .ok none => .error .notNumber
    | .ok (some value) => .ok (if first == '-' then -value else value)

def unsignedFraction? (cs : List Char) : Option Float :=
  let whole := cs.takeWhile Char.isDigit
  let rest := cs.dropWhile Char.isDigit
  let (places, rest) :=
    match rest with
    | '.' :: rest => (rest.takeWhile Char.isDigit, rest.dropWhile Char.isDigit)
    | rest => ([], rest)
  if whole.isEmpty && places.isEmpty then none
  else
    let exponent? :=
      match rest with
      | [] => some 0
      | e :: rest => if e == 'e' || e == 'E' then
          (if rest.any Text.isBlank then none else signedInt? 10 rest) else none
    exponent?.map fun exponent => Decimal.scaled (whole ++ places) (exponent - places.length)

/-- A fraction with an optional sign and blanks around it, or a word for one that is not finite. -/
def fraction? (cs : List Char) : Option Float :=
  let trimmed := (Text.trimBlanks cs).map Text.plainDigit
  let unsigned := afterSign trimmed
  let word := (String.ofList unsigned).toLower
  let size? :=
    if word == "inf" || word == "infinity" then some (1.0 / 0.0)
    else if word == "nan" then some (0.0 / 0.0)
    else unsignedFraction? unsigned
  size?.map fun size => if trimmed.head? == some '-' then -size else size

def unit (place : Nat) : Except Error Float :=
  let size := Nat.pow 60 place
  if Nat.pow 2 1024 - Nat.pow 2 970 ≤ size then .error .tooManyPlaces
  else .ok (Float.ofScientific size false 0)

def sumOfPlaces (places : List Float) : Except Error Float :=
  (places.zipIdx).foldlM (fun total entry => do return total + entry.1 * (← unit entry.2)) 0

def float (cs : List Char) : Except Error Float :=
  let cs := (cs.filter (· != '_')).map Char.toLower
  match cs with
  | [] => .error .emptyNumber
  | first :: _ =>
    let unsigned := if first == '+' || first == '-' then cs.tail else cs
    let value? : Except Error (Option Float) :=
      if unsigned == ".inf".toList then .ok (some (1.0 / 0.0))
      else if unsigned == ".nan".toList then .ok (some (0.0 / 0.0))
      else if unsigned.contains ':' then
        match (places unsigned).mapM fraction? with
        | none => .ok none
        | some values => (sumOfPlaces values.reverse).map some
      else .ok (fraction? unsigned)
    match value? with
    | .error error => .error error
    | .ok none => .error .notNumber
    | .ok (some value) => .ok (if first == '-' then -value else value)

end MarkupDsl.Yaml.Number
