/-!
# Shortest decimals

The decimal text of a binary fraction with the fewest digits that read back as the same value, and
among those the nearest.  Numbers are positional from `0.0001` up to `10^16`, with a digit after the
point, and otherwise in exponent form with at least two digits in the exponent.
-/

namespace MarkupDsl.Decimal

/-- A non-negative fraction; the denominator is positive in all uses. -/
structure Fraction where
  num : Nat
  den : Nat

def Fraction.scaled (count : Nat) (power : Int) : Fraction :=
  if 0 ≤ power then ⟨count * Nat.pow 2 power.toNat, 1⟩ else ⟨count, Nat.pow 2 (-power).toNat⟩

def Fraction.overTen (x : Fraction) (exponent : Int) : Fraction :=
  if 0 ≤ exponent then ⟨x.num, x.den * Nat.pow 10 exponent.toNat⟩
  else ⟨x.num * Nat.pow 10 (-exponent).toNat, x.den⟩

def Fraction.le (x y : Fraction) : Bool := x.num * y.den ≤ y.num * x.den

def Fraction.lt (x y : Fraction) : Bool := x.num * y.den < y.num * x.den

/-- How many factors of ten, at most `fuel`, bring a fraction below one up to at least one. -/
def shiftToOne (x : Fraction) : (fuel : Nat) → Nat
  | 0 => 0
  | fuel + 1 => if x.den ≤ x.num then 0 else 1 + shiftToOne ⟨x.num * 10, x.den⟩ fuel

def leadingExponent (x : Fraction) : Int :=
  if x.den ≤ x.num then ((toString (x.num / x.den)).length : Int) - 1
  else -(shiftToOne x 400 : Int)

/-- The values that read back as the same binary fraction. -/
structure Rounding where
  low : Fraction
  value : Fraction
  high : Fraction
  closed : Bool

/-- Whether `count` units of `10^exponent` lie in the interval. -/
def Rounding.admits (r : Rounding) (count : Nat) (exponent : Int) : Bool :=
  let c : Fraction := ⟨count, 1⟩
  let low := r.low.overTen exponent
  let high := r.high.overTen exponent
  if r.closed then low.le c && c.le high else low.lt c && c.lt high

/-- The admitted neighbour of the value on the grid of `10^exponent`, the nearer one if both are. -/
def Rounding.neighbour? (r : Rounding) (exponent : Int) : Option Nat :=
  let scaled := r.value.overTen exponent
  let below := scaled.num / scaled.den
  let rest := scaled.num % scaled.den
  match r.admits below exponent, r.admits (below + 1) exponent with
  | true, true =>
    if 2 * rest < scaled.den then some below
    else if scaled.den < 2 * rest then some (below + 1)
    else if below % 2 = 0 then some below else some (below + 1)
  | true, false => some below
  | false, true => some (below + 1)
  | false, false => none

/-- The digits and the exponent of their unit on the coarsest of the next `fuel` grids that has one. -/
def Rounding.digits (r : Rounding) (exponent : Int) : (fuel : Nat) → Nat × Int
  | 0 => (0, exponent)
  | fuel + 1 =>
    match r.neighbour? exponent with
    | some count => (count, exponent)
    | none => r.digits (exponent - 1) fuel

def digitsText (count : Nat) (exponent : Int) : String :=
  let digits := (toString count).toList
  let point : Int := digits.length + exponent
  if -4 < point ∧ point ≤ 16 then
    if exponent ≥ 0 then
      String.ofList (digits ++ List.replicate exponent.toNat '0') ++ ".0"
    else if point ≤ 0 then
      "0." ++ String.ofList (List.replicate (-point).toNat '0' ++ digits)
    else
      String.ofList (digits.take point.toNat) ++ "." ++ String.ofList (digits.drop point.toNat)
  else
    let stripped := (digits.reverse.dropWhile (· == '0')).reverse
    let head := String.ofList (stripped.take 1)
    let tail := String.ofList (stripped.drop 1)
    let power := point - 1
    let size := toString power.natAbs
    head ++ (if tail.isEmpty then "" else "." ++ tail) ++ "e" ++ (if power < 0 then "-" else "+") ++
      (if size.length < 2 then "0" ++ size else size)

def shortest (x : Float) : String :=
  let bits := x.toBits.toNat
  let sign := if bits / Nat.pow 2 63 = 1 then "-" else ""
  let biased : Nat := bits / Nat.pow 2 52 % 2048
  let low : Nat := bits % Nat.pow 2 52
  if biased = 2047 then
    if low = 0 then sign ++ "inf" else "nan"
  else if biased = 0 ∧ low = 0 then sign ++ "0.0"
  else
    let m : Nat := if biased = 0 then low else low + Nat.pow 2 52
    let q : Int := (if biased = 0 then 1 else (biased : Int)) - 1075
    let gap := if low = 0 ∧ 1 < biased then 1 else 2
    let r : Rounding :=
      ⟨.scaled (4 * m - gap) (q - 2), .scaled (4 * m) (q - 2), .scaled (4 * m + 2) (q - 2),
        decide (m % 2 = 0)⟩
    let (count, exponent) := r.digits (leadingExponent r.value) 18
    let digits := (toString count).toList
    let zeros := (digits.reverse.takeWhile (· == '0')).length
    sign ++ digitsText (count / Nat.pow 10 zeros) (exponent + zeros)

end MarkupDsl.Decimal
