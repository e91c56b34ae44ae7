import MarkupDsl.Text.Digits

/-!
# Fractions from digits

The fraction that is nearest to a whole number times a power of ten.
-/

namespace MarkupDsl.Decimal

/-- The fraction `digits · 10^exponent`.  Beyond the range of fractions it is infinite or zero. -/
def scaled (digits : List Char) (exponent : Int) : Float :=
  let mantissa := Text.digitsValue 10 digits
  if mantissa == 0 then 0
  else
    let size := ((toString mantissa).length : Int) + exponent
    if 400 < size then 1.0 / 0.0
    else if size < -400 then 0
    else if 0 ≤ exponent then Float.ofScientific (mantissa * Nat.pow 10 exponent.toNat) false 0
    else Float.ofScientific mantissa true exponent.natAbs

end MarkupDsl.Decimal
