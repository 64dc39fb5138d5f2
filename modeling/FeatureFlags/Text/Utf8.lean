/-!
# UTF-8

The octets of a text, and the text of a list of octets that is well-formed: no octet is missing
or left over, no character is written longer than it has to be, and surrogates do not occur.
-/

set_option autoImplicit false

namespace FeatureFlags.Text

/-- The octets of a text. -/
def utf8 (cs : List Char) : List UInt8 := cs.flatMap String.utf8EncodeChar

/-- The octets of a string. -/
def octets (s : String) : List UInt8 := utf8 s.toList

/-- The low six bits of a continuation octet. -/
def continuation? (b : UInt8) : Option Nat :=
  if 0x80 ≤ b ∧ b ≤ 0xBF then some (b.toNat - 0x80) else none

/-- The character with a given number, if there is one between two bounds. -/
def charBetween? (low high n : Nat) : Option Char :=
  if low ≤ n ∧ n ≤ high ∧ n.isValidChar then some (Char.ofNat n) else none

/-- The first character of a list of octets, and the octets behind it. -/
def decodeChar? : List UInt8 → Option (Char × List UInt8)
  | [] => none
  | a :: rest =>
    if a < 0x80 then some (Char.ofNat a.toNat, rest)
    else if 0xC2 ≤ a ∧ a ≤ 0xDF then
      match rest with
      | b :: rest => do
        let y ← continuation? b
        let c ← charBetween? 0x80 0x7FF ((a.toNat - 0xC0) * 64 + y)
        some (c, rest)
      | _ => none
    else if 0xE0 ≤ a ∧ a ≤ 0xEF then
      match rest with
      | b :: c :: rest => do
        let y ← continuation? b
        let z ← continuation? c
        let c ← charBetween? 0x800 0xFFFF ((a.toNat - 0xE0) * 4096 + y * 64 + z)
        some (c, rest)
      | _ => none
    else if 0xF0 ≤ a ∧ a ≤ 0xF4 then
      match rest with
      | b :: c :: d :: rest => do
        let x ← continuation? b
        let y ← continuation? c
        let z ← continuation? d
        let c ← charBetween? 0x10000 0x10FFFF ((a.toNat - 0xF0) * 262144 + x * 4096 + y * 64 + z)
        some (c, rest)
      | _ => none
    else none

/-- The longest initial part of a list of octets that is a text, and the octets behind it. The
first argument bounds the number of characters. -/
def decodePrefix : Nat → List UInt8 → List Char × List UInt8
  | 0, bytes => ([], bytes)
  | fuel + 1, bytes =>
    match decodeChar? bytes with
    | none => ([], bytes)
    | some (c, rest) =>
      let (text, left) := decodePrefix fuel rest
      (c :: text, left)

/-- The longest initial part of a list of octets that is a text, and the octets behind it. -/
def validPrefix (bytes : List UInt8) : List Char × List UInt8 := decodePrefix bytes.length bytes

/-- The text of a list of octets, if it is well-formed. -/
def decodeUtf8? (bytes : List UInt8) : Option (List Char) :=
  match validPrefix bytes with
  | (text, []) => some text
  | _ => none

end FeatureFlags.Text
