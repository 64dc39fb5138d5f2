import FeatureFlags.Text.Ascii
import FeatureFlags.Text.Blank

/-!
# Networks of addresses

A network is an address of one of two families and the number of leading bits that its members
share with it. An address alone is the network of which it is the only member.
-/

set_option autoImplicit false

namespace FeatureFlags

open Text

/-- The families of addresses. -/
inductive AddressFamily where
  /-- Addresses of 32 bits. -/
  | v4
  /-- Addresses of 128 bits. -/
  | v6
deriving DecidableEq, Repr

/-- The number of bits of an address. -/
def AddressFamily.width : AddressFamily → Nat
  | .v4 => 32
  | .v6 => 128

/-- A network: an address of it, and the number of bits that all members have in common. -/
structure IpNetwork where
  /-- The family of the address. -/
  family : AddressFamily
  /-- The address; its bits behind the common ones do not matter. -/
  address : Nat
  /-- The number of common bits. -/
  commonBits : Nat
deriving DecidableEq, Repr

namespace IpNetwork

/-- The number of members. -/
def size (n : IpNetwork) : Nat := Nat.pow 2 (n.family.width - n.commonBits)

/-- The least member. -/
def first (n : IpNetwork) : Nat := n.address / n.size * n.size

/-- The greatest member. -/
def last (n : IpNetwork) : Nat := n.first + (n.size - 1)

/-- Whether all members of `m` are members of `n`. Networks of different families have no member
in common. -/
def contains (n m : IpNetwork) : Bool :=
  n.family = m.family && n.first ≤ m.first && m.last ≤ n.last

/-- A number in an address of 32 bits: at most three digits, without leading zeros, below 256. -/
def octet? (cs : List Char) : Option Nat :=
  if cs.isEmpty ∨ 3 < cs.length ∨ ¬ cs.all Char.isDigit then none
  else if cs.head? = some '0' ∧ cs.length ≠ 1 then none
  else if digitsValue cs < 256 then some (digitsValue cs) else none

/-- The address of 32 bits that a text denotes: four numbers separated by dots. -/
def address4? (cs : List Char) : Option Nat :=
  match cs.splitOn '.' with
  | [a, b, c, d] => do
    let a ← octet? a
    let b ← octet? b
    let c ← octet? c
    let d ← octet? d
    some (((a * 256 + b) * 256 + c) * 256 + d)
  | _ => none

/-- A group of one to four hexadecimal digits. -/
def group? (cs : List Char) : Option Nat :=
  if cs.isEmpty ∨ 4 < cs.length then none
  else cs.foldl (fun n c => do some (16 * (← n) + (← hexValue? c).val)) (some 0)

/-- The groups that a list of texts denotes, the last of which may be an address of 32 bits. -/
def groups? : List (List Char) → Option (List Nat)
  | [] => some []
  | [last] =>
    match group? last, address4? last with
    | some g, _ => some [g]
    | none, some a => some [a / 65536, a % 65536]
    | none, none => none
  | cs :: rest => do
    let g ← group? cs
    let gs ← groups? rest
    some (g :: gs)

/-- The texts between colons; an empty text has none. -/
def colonParts (cs : List Char) : List (List Char) := if cs.isEmpty then [] else cs.splitOn ':'

/-- What stands before and behind the first double colon. -/
def splitDoubleColon? : List Char → Option (List Char × List Char)
  | ':' :: ':' :: rest => some ([], rest)
  | c :: rest => (splitDoubleColon? rest).map fun (before, after) => (c :: before, after)
  | [] => none

/-- The number of eight groups. -/
def joinGroups (gs : List Nat) : Nat := gs.foldl (fun n g => 65536 * n + g) 0

/-- The address of 128 bits that a text denotes: eight groups separated by colons, or fewer with
one double colon in place of those that are zero. -/
def address6? (cs : List Char) : Option Nat :=
  match splitDoubleColon? cs with
  | none => do
    let gs ← groups? (colonParts cs)
    if gs.length = 8 then some (joinGroups gs) else none
  | some (before, after) => do
    -- an address of 32 bits can only be the end of the whole text
    let head ← (colonParts before).mapM group?
    let tail ← groups? (colonParts after)
    if head.length + tail.length < 8 then
      some (joinGroups (head ++ List.replicate (8 - head.length - tail.length) 0 ++ tail))
    else none

/-- A number of common bits: digits, at most as many as the bound has, up to the bound. -/
def commonBits? (digits bound : Nat) (cs : List Char) : Option Nat :=
  if cs.isEmpty ∨ digits < cs.length ∨ ¬ cs.all Char.isDigit then none
  else if digitsValue cs ≤ bound then some (digitsValue cs) else none

/-- The network that a text with a slash denotes. -/
def ofSlashed? (cs : List Char) : Option IpNetwork :=
  match cs.splitOn '/' with
  | [address, bits] =>
    match address4? address, address6? address with
    | some a, _ => (commonBits? 2 32 bits).map fun n => ⟨.v4, a, n⟩
    | none, some a => (commonBits? 3 128 bits).map fun n => ⟨.v6, a, n⟩
    | none, none => none
  | _ => none

/-- The network that a text denotes, with white space around it. -/
def ofText? (s : String) : Option IpNetwork :=
  let cs := trim s.toList
  match ofSlashed? cs, address4? cs, address6? cs with
  | some n, _, _ => some n
  | none, some a, _ => some ⟨.v4, a, 32⟩
  | none, none, some a => some ⟨.v6, a, 128⟩
  | none, none, none => none

end IpNetwork

end FeatureFlags
