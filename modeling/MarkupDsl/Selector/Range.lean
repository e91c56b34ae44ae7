import MarkupDsl.Calendar
import MarkupDsl.Decimal.Scaled
import MarkupDsl.Html.Location
import MarkupDsl.Selector.Basic

/-!
# Values with bounds

The values of inputs for numbers, days and times, and whether a value keeps to the bounds that are
written at its input.  Bounds and values that do not exist are of no account.
-/

namespace MarkupDsl.Selector

open Html

inductive Quantity where
  | number (value : Float)
  | moment (units : List Nat)

def Quantity.less : Quantity → Quantity → Bool
  | number a, number b => a < b
  | moment a, moment b => decide (a < b)
  | _, _ => false

namespace Quantity

/-! ## Reading -/

def after? (c : Char) : List Char → Option (List Char)
  | d :: rest => if c = d then some rest else none
  | [] => none

def year? (cs : List Char) : Option (List Char × List Char) :=
  let digits := cs.takeWhile Char.isDigit
  if 4 ≤ digits.length then some (digits, cs.drop digits.length) else none

def unit? (cs : List Char) : Option (Nat × List Char) :=
  let digits := (cs.take 2).takeWhile Char.isDigit
  if digits.length = 2 then some (Text.digitsValue 10 digits, cs.drop 2) else none

/-- Whether nothing follows but at most a line feed. -/
def isEnd (cs : List Char) : Bool := cs.isEmpty || cs == ['\n']

/-- The year that digits stand for, unless there are too many of them. -/
def yearOf (digits : List Char) : Except Undecided Nat :=
  if Text.mostDigits < digits.length then .error .numberTooLong
  else .ok (Text.digitsValue 10 digits)

def time? (cs : List Char) : Option (Nat × Nat × List Char) := do
  let (hour, cs) ← unit? cs
  let (minute, cs) ← unit? (← after? ':' cs)
  return (hour, minute, cs)

def isTime (hour minute : Nat) : Bool := hour ≤ 23 && minute ≤ 59

def day? (cs : List Char) : Option (List Char × Nat × List Char) := do
  let (year, cs) ← year? cs
  let (month, cs) ← unit? (← after? '-' cs)
  return (year, month, cs)

def existing (exist : Bool) (units : List Nat) : Option Quantity :=
  if exist then some (moment units) else none

def unsigned? (cs : List Char) : Option Float :=
  let whole := cs.takeWhile Char.isDigit
  match cs.drop whole.length with
  | '.' :: rest =>
    let places := rest.takeWhile Char.isDigit
    if !places.isEmpty && isEnd (rest.drop places.length) then
      some (Decimal.scaled (whole ++ places) (-places.length))
    else none
  | rest => if !whole.isEmpty && isEnd rest then some (Decimal.scaled whole 0) else none

def number? : List Char → Option Float
  | '-' :: rest => (unsigned? rest).map (-·)
  | cs => unsigned? cs

def read (kind : String) (cs : List Char) : Except Undecided (Option Quantity) :=
  match kind with
  | "date" =>
    match do
      let (year, month, cs) ← day? cs
      let (day, cs) ← unit? (← after? '-' cs)
      if isEnd cs then some (year, month, day) else none with
    | none => return none
    | some (year, month, day) => do
      let year ← yearOf year
      return existing (Calendar.isDay year month day) [year, month, day]
  | "month" =>
    match day? cs with
    | none => return none
    | some (year, month, cs) =>
      if isEnd cs then do
        let year ← yearOf year
        return existing (Calendar.isMonth year month) [year, month]
      else return none
  | "week" =>
    match do
      let (year, cs) ← year? cs
      let (week, cs) ← unit? (← after? 'W' (← after? '-' cs))
      if isEnd cs then some (year, week) else none with
    | none => return none
    | some (year, week) => do
      let year ← yearOf year
      if year = 0 then return none
      if year < 1000 ∨ 9999 < year then throw .noSuchYear
      return existing (1 ≤ week && week ≤ Calendar.lastWeek year) [year, week]
  | "time" =>
    match time? cs with
    | none => return none
    | some (hour, minute, cs) =>
      if isEnd cs then return existing (isTime hour minute) [hour, minute] else return none
  | "datetime-local" =>
    match do
      let (year, month, cs) ← day? cs
      let (day, cs) ← unit? (← after? '-' cs)
      let (hour, minute, cs) ← time? (← after? 'T' cs)
      if isEnd cs then some (year, month, day, hour, minute) else none with
    | none => return none
    | some (year, month, day, hour, minute) => do
      let year ← yearOf year
      return existing (Calendar.isDay year month day && isTime hour minute)
        [year, month, day, hour, minute]
  | "number" | "range" => return (number? cs).map number
  | _ => return none

end Quantity

/-! ## Bounds -/

/-- Whether a value is out of its bounds.  Times go round, so that a lower bound behind the upper one
leaves out what lies between the two. -/
def isOutOfBounds (kind : String) (least most : Option Quantity) (value : Quantity) : Bool :=
  let below := (least.map fun least => value.less least).getD false
  let above := (most.map fun most => most.less value).getD false
  match kind == "time", least, most with
  | true, some least, some most => if most.less least then below && above else below || above
  | _, _, _ => below || above

/-- Whether the value of an input keeps to its bounds, or does not.  An input without bounds does
neither, and a missing value keeps to all bounds.  An input whose kind is not written cannot be
asked. -/
def keepsBounds (inside : Bool) (here : Location) : Except Undecided Bool := do
  let kind ←
    match here.written? "type" with
    | some kind => pure (Text.plainLower kind)
    | none => throw .noKind
  let read (name : String) : Except Undecided (Option Quantity) :=
    match here.written? name with
    | none => return none
    | some written => Quantity.read kind written.toList
  let least ← read "min"
  let most ← read "max"
  if least.isNone && most.isNone then return false
  let outside := ((← read "value").map (isOutOfBounds kind least most)).getD false
  return outside != inside

end MarkupDsl.Selector
