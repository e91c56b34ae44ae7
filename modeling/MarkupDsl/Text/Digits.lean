/-!
# Digits

The digits of bases up to sixteen, in both cases, and the numbers that they stand for.  Where the
script does not matter, the ten decimal digits of any script are as good as the plain ones.
-/

namespace MarkupDsl.Text

def isHexDigit (c : Char) : Bool :=
  c.isDigit || ('a' ≤ c && c ≤ 'f') || ('A' ≤ c && c ≤ 'F')

def digitValue (c : Char) : Nat :=
  if c.isDigit then c.toNat - '0'.toNat
  else if 'a' ≤ c && c ≤ 'f' then c.toNat - 'a'.toNat + 10
  else c.toNat - 'A'.toNat + 10

def digitsValue (base : Nat) (digits : List Char) : Nat :=
  digits.foldl (fun value digit => value * base + digitValue digit) 0

def mostDigits : Nat := 4300

/-! ## Digits of any script -/

/-- The decimal zeros of all scripts, after Unicode 14; the other nine digits follow each of them. -/
def decimalZeros : List Nat := [
  48, 1632, 1776, 1984, 2406, 2534, 2662, 2790, 2918, 3046, 3174, 3302, 3430, 3558, 3664, 3792,
  3872, 4160, 4240, 6112, 6160, 6470, 6608, 6784, 6800, 6992, 7088, 7232, 7248, 42528, 43216, 43264,
  43472, 43504, 43600, 44016, 65296, 66720, 68912, 69734, 69872, 69942, 70096, 70384, 70736, 70864,
  71248, 71360, 71472, 71904, 72016, 72784, 73040, 73120, 92768, 92864, 93008, 120782, 120792,
  120802, 120812, 120822, 123200, 123632, 125264, 130032]

def decimal? (c : Char) : Option Nat :=
  decimalZeros.findSome? fun start =>
    if start ≤ c.toNat ∧ c.toNat ≤ start + 9 then some (c.toNat - start) else none

def isDecimal (c : Char) : Bool := (decimal? c).isSome

/-- A decimal digit of any script as a plain one; other characters stay as they are. -/
def plainDigit (c : Char) : Char :=
  match decimal? c with
  | some value => Char.ofNat ('0'.toNat + value)
  | none => c

end MarkupDsl.Text
