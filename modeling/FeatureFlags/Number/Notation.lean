import FeatureFlags.Number.Shortest

/-!
# Written numbers

The text of a number in a JSON document. Integers are plain decimal numerals. A floating point
number is written with the fewest digits that read back, and always with a fraction or an
exponent, so that the text alone tells an integer from a floating point number.
-/

set_option autoImplicit false

namespace FeatureFlags

/-- How a decimal with a given first digit is laid out. -/
structure DecimalLayout where
  /-- The least power of ten of the first digit that is written positionally. -/
  leastPositional : Int
  /-- The greatest power of ten of the first digit that is written positionally. -/
  greatestPositional : Int

/-- JSON numbers are positional from `0.00001` up to sixteen digits before the point. -/
def DecimalLayout.json : DecimalLayout := ⟨-5, 15⟩

/-- The decimal digits of a natural number. -/
def decimalDigits (n : Nat) : List Char := Nat.toDigits 10 n

/-- The decimal numeral of an integer. -/
def integerText (n : Int) : List Char :=
  if n < 0 then '-' :: decimalDigits n.natAbs else decimalDigits n.natAbs

/-- The text of the positive decimal `digits * 10 ^ scale`. -/
def DecimalLayout.write (layout : DecimalLayout) (d : Shortest.Decimal) : List Char :=
  let digits := decimalDigits d.digits
  let exponent := d.scale + (digits.length : Int) - 1
  if exponent < layout.leastPositional ∨ layout.greatestPositional < exponent then
    let fraction := digits.drop 1
    let mantissa := digits.take 1 ++ (if fraction.isEmpty then [] else '.' :: fraction)
    let sign := if exponent < 0 then '-' else '+'
    mantissa ++ 'e' :: sign :: decimalDigits exponent.natAbs
  else if exponent < 0 then
    '0' :: '.' :: List.replicate (exponent.natAbs - 1) '0' ++ digits
  else
    let whole := exponent.natAbs + 1
    let padded := digits ++ List.replicate (whole - digits.length) '0'
    let fraction := padded.drop whole
    padded.take whole ++ '.' :: (if fraction.isEmpty then ['0'] else fraction)

/-- The text of a floating point number. The numbers that are not finite have words for names. -/
def Binary64.text : Binary64 → List Char
  | .nan => "NaN".toList
  | .infinite negative => if negative then "-inf".toList else "inf".toList
  | .finite negative significand exponent =>
    let magnitude :=
      if significand = 0 then "0.0".toList
      else DecimalLayout.json.write (Shortest.ofFinite significand exponent)
    if negative then '-' :: magnitude else magnitude

end FeatureFlags
