/-!
# Characters of ASCII

Digits, hexadecimal digits and letter case, for formats that are written in ASCII. Characters
beyond it are in none of these classes and are left alone by the case maps.
-/

set_option autoImplicit false

namespace FeatureFlags.Text

/-- The value of a decimal digit. -/
def digitValue? (c : Char) : Option Nat :=
  if c.isDigit then some (c.toNat - '0'.toNat) else none

/-- The number that a list of decimal digits denotes. -/
def digitsValue (cs : List Char) : Nat :=
  cs.foldl (fun n c => 10 * n + (digitValue? c).getD 0) 0

/-- The longest initial run of decimal digits, and the rest. -/
def spanDigits (cs : List Char) : List Char × List Char :=
  (cs.takeWhile Char.isDigit, cs.dropWhile Char.isDigit)

/-- The value of a hexadecimal digit in either case. -/
def hexValue? (c : Char) : Option (Fin 16) :=
  let n := c.toNat
  if '0' ≤ c ∧ c ≤ '9' then some (Fin.ofNat 16 (n - '0'.toNat))
  else if 'a' ≤ c ∧ c ≤ 'f' then some (Fin.ofNat 16 (n - 'a'.toNat + 10))
  else if 'A' ≤ c ∧ c ≤ 'F' then some (Fin.ofNat 16 (n - 'A'.toNat + 10))
  else none

/-- The lower-case hexadecimal digit of a value. -/
def hexDigit (n : Fin 16) : Char :=
  if n.val < 10 then Char.ofNat ('0'.toNat + n.val) else Char.ofNat ('a'.toNat + (n.val - 10))

/-- The upper-case hexadecimal digit of a value. -/
def upperHexDigit (n : Fin 16) : Char := (hexDigit n).toUpper

/-- Reading a hexadecimal digit gives the value it was written for. -/
theorem hexValue?_hexDigit (n : Fin 16) : hexValue? (hexDigit n) = some n := by
  revert n; decide

/-- The two lower-case hexadecimal digits of an octet. -/
def hexOctet (b : UInt8) : List Char :=
  [hexDigit (Fin.ofNat 16 (b.toNat / 16)), hexDigit (Fin.ofNat 16 b.toNat)]

/-- The octets that a text of hexadecimal digit pairs denotes. -/
def octetsOfHex? : List Char → Option (List UInt8)
  | [] => some []
  | [_] => none
  | a :: b :: rest =>
    match hexValue? a, hexValue? b, octetsOfHex? rest with
    | some high, some low, some bytes => some (UInt8.ofNat (16 * high.val + low.val) :: bytes)
    | _, _, _ => none

/-- The letters of a text in lower case. -/
def lower (cs : List Char) : List Char := cs.map Char.toLower

/-- The letters of a text in upper case. -/
def upper (cs : List Char) : List Char := cs.map Char.toUpper

/-- Whether two texts are equal up to the case of their letters. -/
def sameLetters (s t : String) : Bool := lower s.toList == lower t.toList

end FeatureFlags.Text
