/-!
# 64-bit binary floating point numbers

A finite number is a sign, a significand and a power of two, and every operation is the exact
rational result rounded once, to the nearest representable number with ties to an even
significand. The host's floating point unit takes no part, so that a statement about a result
is a statement about natural numbers.
-/

set_option autoImplicit false

namespace FeatureFlags

/-- A 64-bit binary floating point number. The finite numbers this library builds are canonical:
the significand is below `2 ^ 53`, the exponent lies between `-1074` and `971`, and the
significand is at least `2 ^ 52` unless the exponent is the least one. -/
inductive Binary64 where
  /-- The result of an invalid operation. -/
  | nan
  /-- An infinity with a sign. -/
  | infinite (negative : Bool)
  /-- The number `± significand * 2 ^ exponent`. -/
  | finite (negative : Bool) (significand : Nat) (exponent : Int)
deriving Repr, DecidableEq, Inhabited

namespace Binary64

/-- The least exponent of a finite number. -/
def minExponent : Int := -1074

/-- The greatest exponent of a finite number. -/
def maxExponent : Int := 971

/-- Zero with a sign. -/
def zero (negative : Bool) : Binary64 := .finite negative 0 minExponent

/-- The quotient of two natural numbers, rounded to the nearest integer and to the even one of
two that are equally near. -/
def divideToEven (num den : Nat) : Nat :=
  let quotient := num / den
  let twice := 2 * (num % den)
  if twice < den then quotient
  else if den < twice then quotient + 1
  else if quotient % 2 = 0 then quotient else quotient + 1

/-- The quotient `num / (den * 2 ^ exponent)` as a fraction of natural numbers. -/
def scaled (num den : Nat) (exponent : Int) : Nat × Nat :=
  if exponent < 0 then (num * Nat.pow 2 exponent.natAbs, den)
  else (num, den * Nat.pow 2 exponent.natAbs)

/-- The exponent at which the positive rational `num / den` has a significand of 53 bits, or the
least exponent if that one is greater. -/
def exponentOf (num den : Nat) : Int :=
  let low : Int := (Nat.log2 num : Int) - (Nat.log2 den : Int) - 53
  let (n, d) := scaled num den low
  let full := if n / d < Nat.pow 2 53 then low else low + 1
  if full < minExponent then minExponent else full

/-- The number nearest to the rational `num / den`. -/
def ofRatio (negative : Bool) (num den : Nat) : Binary64 :=
  if num = 0 ∨ den = 0 then zero negative
  else
    let exponent := exponentOf num den
    let (n, d) := scaled num den exponent
    let significand := divideToEven n d
    let (significand, exponent) :=
      if significand = Nat.pow 2 53 then (Nat.pow 2 52, exponent + 1) else (significand, exponent)
    if maxExponent < exponent then .infinite negative
    else .finite negative significand exponent

/-- The number nearest to a natural number. -/
def ofNat (n : Nat) : Binary64 := ofRatio false n 1

/-- The number nearest to an integer. -/
def ofInt (n : Int) : Binary64 := ofRatio (decide (n < 0)) n.natAbs 1

/-- Whether the number is an infinity. -/
def isInfinite : Binary64 → Bool
  | .infinite _ => true
  | _ => false

/-- Whether the number is a zero of either sign. -/
def isZero : Binary64 → Bool
  | .finite _ s _ => s == 0
  | _ => false

/-- The same number with the opposite sign. -/
def negate : Binary64 → Binary64
  | .nan => .nan
  | .infinite n => .infinite (!n)
  | .finite n s e => .finite (!n) s e

/-- The magnitude `significand * 2 ^ exponent` as a fraction of natural numbers. -/
def magnitude (significand : Nat) (exponent : Int) : Nat × Nat :=
  if exponent < 0 then (significand, Nat.pow 2 exponent.natAbs)
  else (significand * Nat.pow 2 exponent.natAbs, 1)

/-- The rounded product. -/
def mul : Binary64 → Binary64 → Binary64
  | .nan, _ => .nan
  | _, .nan => .nan
  | .infinite a, .infinite b => .infinite (a != b)
  | .infinite a, .finite b s _ => if s = 0 then .nan else .infinite (a != b)
  | .finite a s _, .infinite b => if s = 0 then .nan else .infinite (a != b)
  | .finite a s e, .finite b t f =>
    let (n, d) := magnitude (s * t) (e + f)
    ofRatio (a != b) n d

/-- The rounded quotient. -/
def div : Binary64 → Binary64 → Binary64
  | .nan, _ => .nan
  | _, .nan => .nan
  | .infinite _, .infinite _ => .nan
  | .infinite a, .finite b _ _ => .infinite (a != b)
  | .finite a _ _, .infinite b => zero (a != b)
  | .finite a s e, .finite b t f =>
    if t = 0 then (if s = 0 then .nan else .infinite (a != b))
    else
      let (n, d) := magnitude s (e - f)
      ofRatio (a != b) n (d * t)

/-- A finite number as an integer multiple of `2 ^ -1074`, the finest step there is. -/
def steps (negative : Bool) (significand : Nat) (exponent : Int) : Int :=
  let n : Int := (significand * Nat.pow 2 (exponent - minExponent).toNat : Nat)
  if negative then -n else n

/-- The order of two numbers, if neither is invalid. The two zeros are equal. -/
def compare? : Binary64 → Binary64 → Option Ordering
  | .nan, _ => none
  | _, .nan => none
  | .infinite a, .infinite b => some (compare (if a then 0 else 1) (if b then (0 : Nat) else 1))
  | .infinite a, .finite .. => some (if a then .lt else .gt)
  | .finite .., .infinite b => some (if b then .gt else .lt)
  | .finite a s e, .finite b t f => some (compare (steps a s e) (steps b t f))

/-- Equality of values: the two zeros are equal and an invalid number equals nothing. -/
def sameValue (x y : Binary64) : Bool := x.compare? y == some .eq

end Binary64

end FeatureFlags
