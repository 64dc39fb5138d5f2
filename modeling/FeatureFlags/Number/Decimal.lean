import FeatureFlags.Number.Binary64
import FeatureFlags.Text.Ascii

/-!
# Reading floating point numbers

A numeral is a sign, digits with an optional point and an optional exponent, or one of the words
for infinity and for an invalid number in any letter case. At least one digit is required before
the exponent, and at least one in it. The value is the nearest floating point number to the
decimal that is written, however many digits it has.
-/

set_option autoImplicit false

namespace FeatureFlags

open Text

/-- A leading sign, if there is one; `true` stands for minus. -/
def readSign : List Char → Bool × List Char
  | '-' :: rest => (true, rest)
  | '+' :: rest => (false, rest)
  | cs => (false, cs)

/-- The exponent part of a numeral: nothing, or a mark, a sign and at least one digit. -/
def readExponent? : List Char → Option Int
  | [] => some 0
  | c :: rest =>
    if c = 'e' ∨ c = 'E' then
      let (negative, digits) := readSign rest
      if digits.isEmpty ∨ ¬ digits.all Char.isDigit then none
      else
        let n : Int := digitsValue digits
        some (if negative then -n else n)
    else none

/-- The nearest floating point number to `digits * 10 ^ exponent`. Beyond the range of the format
the result does not depend on the digits, and no large power is computed. -/
def Binary64.ofDecimal (negative : Bool) (digits : Nat) (exponent : Int) : Binary64 :=
  if digits = 0 then .zero negative
  else
    let first : Int := exponent + (Nat.log2 digits : Int) / 3
    if 310 < exponent then .infinite negative
    else if first < -400 then .zero negative
    else if exponent < 0 then .ofRatio negative digits (Nat.pow 10 exponent.natAbs)
    else .ofRatio negative (digits * Nat.pow 10 exponent.natAbs) 1

/-- The floating point number that a numeral denotes. -/
def Binary64.ofText? (text : List Char) : Option Binary64 :=
  let (negative, body) := readSign text
  let word := lower body
  if word = "inf".toList ∨ word = "infinity".toList then some (.infinite negative)
  else if word = "nan".toList then some .nan
  else
    let (whole, rest) := spanDigits body
    let (fraction, rest) :=
      match rest with
      | '.' :: after => spanDigits after
      | _ => ([], rest)
    if whole.isEmpty ∧ fraction.isEmpty then none
    else
      (readExponent? rest).map fun e =>
        .ofDecimal negative (digitsValue (whole ++ fraction)) (e - (fraction.length : Int))

end FeatureFlags
