import FeatureFlags.Number.Binary64

/-!
# The shortest decimal that reads back

A finite number is written with the fewest decimal digits that identify it, and with the nearest
such decimal if there are several. For each number of digits the two decimals around the number
on the grid of that many digits are tested in exact arithmetic, so the first grid with a hit
gives the fewest digits there are.
-/

set_option autoImplicit false

namespace FeatureFlags.Shortest

/-- The positive decimal `digits * 10 ^ scale`. -/
structure Decimal where
  /-- The digits, as one number. -/
  digits : Nat
  /-- The power of ten of the last digit. -/
  scale : Int
deriving Repr, DecidableEq

/-- The rationals that round to one number: those strictly between two bounds over a common
denominator, and the bounds themselves if `closed`. -/
structure Window where
  /-- The numerator of the lower bound. -/
  low : Nat
  /-- The numerator of the number itself. -/
  value : Nat
  /-- The numerator of the upper bound. -/
  high : Nat
  /-- The common denominator. -/
  den : Nat
  /-- Whether the bounds belong to the window. -/
  closed : Bool

/-- The window of the finite number `significand * 2 ^ exponent`. The gap below a power of two
is half the gap above it. -/
def Window.ofFinite (significand : Nat) (exponent : Int) : Window :=
  let tight := significand = Nat.pow 2 52 ∧ Binary64.minExponent < exponent
  let low := if tight then 4 * significand - 1 else 4 * significand - 2
  let (unit, den) := Binary64.magnitude 1 (exponent - 2)
  { low := low * unit, value := 4 * significand * unit, high := (4 * significand + 2) * unit,
    den := den, closed := significand % 2 = 0 }

/-- Whether the rational `num / den` lies in the window. -/
def Window.contains (w : Window) (num den : Nat) : Bool :=
  let a := num * w.den
  let l := w.low * den
  let h := w.high * den
  if w.closed then l ≤ a && a ≤ h else l < a && a < h

/-- The greatest `k` with `10 ^ k ≤ num / den`, searched from an estimate from below. -/
def floorLog10 (num den : Nat) : Int :=
  let estimate : Int := (((Nat.log2 num : Int) - (Nat.log2 den : Int) - 1) * 30103) / 100000 - 1
  let reached (k : Int) : Bool :=
    if k < 0 then den ≤ num * Nat.pow 10 k.natAbs else den * Nat.pow 10 k.natAbs ≤ num
  if reached (estimate + 3) then estimate + 3
  else if reached (estimate + 2) then estimate + 2
  else if reached (estimate + 1) then estimate + 1
  else estimate

/-- The decimal with its last digit at `10 ^ scale` that lies in the window and is nearest to its
number, the even one of two equally near. -/
def candidate? (w : Window) (scale : Int) : Option Decimal :=
  let (up, down) := if scale < 0 then (1, Nat.pow 10 scale.natAbs) else (Nat.pow 10 scale.natAbs, 1)
  let num := w.value * down
  let den := w.den * up
  let below := num / den
  let rest := 2 * (num % den)
  let hit (d : Nat) : Bool := d != 0 && w.contains (d * up) down
  let nearest : Option Nat :=
    match hit below, hit (below + 1) with
    | true, true =>
      if rest < den then some below
      else if den < rest then some (below + 1)
      else if below % 2 = 0 then some below else some (below + 1)
    | true, false => some below
    | false, true => some (below + 1)
    | false, false => none
  nearest.map fun d => ⟨d, scale⟩

/-- The candidate of the first grid with one, starting at `scale` and going on to finer grids. -/
def search (w : Window) (scale : Int) : Nat → Option Decimal
  | 0 => none
  | grids + 1 => candidate? w scale <|> search w (scale - 1) grids

/-- The same decimal without the trailing zeros of its digits, of which `fuel` bounds the
number. -/
def Decimal.trim (d : Decimal) : Nat → Decimal
  | 0 => d
  | fuel + 1 =>
    if d.digits % 10 = 0 ∧ d.digits ≠ 0 then Decimal.trim ⟨d.digits / 10, d.scale + 1⟩ fuel else d

/-- The shortest decimal of a positive finite number. Seventeen digits identify every number. -/
def ofFinite (significand : Nat) (exponent : Int) : Decimal :=
  let w := Window.ofFinite significand exponent
  match search w (floorLog10 w.value w.den) 17 with
  | some d => d.trim 17
  | none => ⟨significand, 0⟩

end FeatureFlags.Shortest
