import FeatureFlags.Text.Ascii

/-!
# Punycode

The encoding of RFC 3492, by which labels of domain names hold characters beyond ASCII. The
characters of ASCII come first; behind the last hyphen stand numbers that tell which other
characters to insert, and where.
-/

set_option autoImplicit false

namespace FeatureFlags.Punycode

/-- The value of a digit: letters in either case come before digits. -/
def digitValue? (c : Char) : Option Nat :=
  if c.isLower then some (c.toNat - 'a'.toNat)
  else if c.isUpper then some (c.toNat - 'A'.toNat)
  else if c.isDigit then some (c.toNat - '0'.toNat + 26)
  else none

/-- The threshold of the digit at a position. -/
def threshold (k bias : Nat) : Nat := min 26 (max 1 (k - bias))

/-- Divides a difference until it is small. The first argument bounds the number of divisions. -/
def adaptLoop : Nat → Nat → Nat → Nat × Nat
  | 0, d, k => (d, k)
  | fuel + 1, d, k => if 455 < d then adaptLoop fuel (d / 35) (k + 36) else (d, k)

/-- The bias after a difference, when there are `count` characters. -/
def adapt (difference count : Nat) (isFirst : Bool) : Nat :=
  let d := if isFirst then difference / 700 else difference / 2
  let (d, k) := adaptLoop 64 (d + d / count) 0
  k + 36 * d / (d + 38)

/-- Reads a number: the rest of its digits from the position `k` on, with the weight `w`. -/
def readNumber (bias : Nat) : List Char → Nat → Nat → Nat → Option (Nat × List Char)
  | [], _, _, _ => none
  | c :: rest, k, w, n => do
    let digit ← digitValue? c
    let t := threshold k bias
    let n := n + digit * w
    if digit < t then some (n, rest) else readNumber bias rest (k + 36) (w * (36 - t)) n

/-- Inserts characters until nothing is left to read. The first argument bounds their number. -/
def insertAll : Nat → List Char → List Char → Nat → Nat → Nat → Option (List Char)
  | _, [], out, _, _, _ => some out
  | 0, _ :: _, _, _, _, _ => none
  | fuel + 1, cs, out, point, place, bias => do
    let (difference, rest) ← readNumber bias cs 36 1 0
    let count := out.length + 1
    let bias := adapt difference count (place = 0)
    let total := place + difference
    let point := point + total / count
    let place := total % count
    if point.isValidChar then
      insertAll fuel rest (out.insertIdx place (Char.ofNat point)) point (place + 1) bias
    else none

/-- What stands before and behind the last hyphen. -/
def splitLastHyphen (cs : List Char) : List Char × List Char :=
  let behind := (cs.reverse.takeWhile (· ≠ '-')).reverse
  (cs.take (cs.length - behind.length - 1), behind)

/-- The text that an encoded label denotes. -/
def decode? (cs : List Char) : Option (List Char) :=
  let (basic, numbers) := splitLastHyphen cs
  if basic.all fun c => c.toNat < 0x80 then insertAll cs.length numbers basic 128 0 72 else none

end FeatureFlags.Punycode
