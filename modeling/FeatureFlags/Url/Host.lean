import FeatureFlags.IpNetwork
import FeatureFlags.Text.Search
import FeatureFlags.Text.Utf8
import FeatureFlags.Unicode.Lookup
import FeatureFlags.Url.Punycode

/-!
# Hosts of addresses

A host is a domain name or a numeric address. Domain names are mapped to lower case, and the
characters that cannot stand in a name are refused. A name whose last label is a number has to be
an address of 32 bits.
-/

set_option autoImplicit false

namespace FeatureFlags

open Text

/-- Why a text is no address. -/
inductive UrlError where
  /-- It has no host. -/
  | emptyHost
  /-- Its host is no domain name. -/
  | invalidDomainName
  /-- Its host has a character that it cannot have. -/
  | invalidHostCharacter
  /-- Its port is no number of 16 bits. -/
  | invalidPort
  /-- Its host looks like an address of 32 bits, but is none. -/
  | invalidIpv4Address
  /-- Its host looks like an address of 128 bits, but is none. -/
  | invalidIpv6Address
  /-- It has no scheme. -/
  | relativeWithoutBase
deriving DecidableEq, Repr

/-- The description of an error. -/
def UrlError.message : UrlError → String
  | .emptyHost => "empty host"
  | .invalidDomainName => "invalid international domain name"
  | .invalidHostCharacter => "invalid domain character"
  | .invalidPort => "invalid port number"
  | .invalidIpv4Address => "invalid IPv4 address"
  | .invalidIpv6Address => "invalid IPv6 address"
  | .relativeWithoutBase => "relative URL without a base"

namespace Url

/-! ### Domain names -/

/-- The octets of a text in which percent signs with two hexadecimal digits stand for octets. -/
def percentDecode : List Char → List UInt8
  | [] => []
  | '%' :: a :: b :: rest =>
    match hexValue? a, hexValue? b with
    | some x, some y => UInt8.ofNat (16 * x.val + y.val) :: percentDecode rest
    | _, _ => 0x25 :: percentDecode (a :: b :: rest)
  | c :: rest => String.utf8EncodeChar c ++ percentDecode rest

/-- Whether a character of ASCII cannot stand in a domain name. -/
def isDenied (c : Char) : Bool :=
  c.toNat ≤ 0x20 || c.toNat = 0x7F || "%#/:<>?@[\\]^|".toList.contains c

/-- The marks that are left out of domain names. -/
def ignored : Unicode.CharSet :=
  [(0xAD, 0xAD), (0x180B, 0x180D), (0x180F, 0x180F), (0x200B, 0x200B), (0x2060, 0x2060),
    (0x2064, 0x2064), (0xFE00, 0xFE0F), (0xFEFF, 0xFEFF), (0xE0100, 0xE01EF)]

/-- Whether a character beyond ASCII is of a category that domain names do not have. -/
def isUnfit (c : Char) : Bool :=
  ["cc", "cf", "cn", "co", "zl", "zp"].any fun category =>
    ((Unicode.category? category).getD []).contains c.toNat

/-- Whether a character is a mark that combines with the one before it. -/
def isMark (c : Char) : Bool := 0x80 ≤ c.toNat && ((Unicode.category? "m").getD []).contains c.toNat

/-- The characters that a character of a domain name is mapped to. -/
def mapped (c : Char) : Option (List Char) :=
  let n := c.toNat
  if n < 0x80 then some [c.toLower]
  else if n = 0x3002 ∨ n = 0xFF0E ∨ n = 0xFF61 then some ['.']
  else if 0xFF01 ≤ n ∧ n ≤ 0xFF5E then some [(Char.ofNat (n - 0xFEE0)).toLower]
  else if ignored.contains n then some []
  else if isBlank c then some [' ']
  else if isUnfit c then none
  else some [c]

/-- Whether a label of a domain name is what it should be: it does not start with a combining
mark, and if it is encoded, it holds a label beyond ASCII. -/
def isLabel (label : List Char) : Bool :=
  match dropStart? "xn--".toList label with
  | none => !(label.head?.any isMark)
  | some encoded =>
    match Punycode.decode? encoded with
    | none => false
    | some cs =>
      cs.any (fun c => 0x80 ≤ c.toNat) && !(cs.head?.any isMark) &&
        cs.all fun c => mapped c == some [c]

/-- The domain name that a text denotes. -/
def domain? (cs : List Char) : Option (List Char) := do
  let decoded ← decodeUtf8? (percentDecode cs)
  let name := (← decoded.mapM mapped).flatten
  if name.any isDenied || !(name.splitOn '.').all isLabel then none else some name

/-! ### Numeric hosts -/

/-- The number of digits in a base. -/
def numberIn? (base : Nat) (cs : List Char) : Option Nat :=
  cs.foldl (fun n c => do
    let n ← n
    let d ← hexValue? c
    if d.val < base then some (base * n + d.val) else none) (some 0)

/-- A part of an address of 32 bits: decimal, octal or hexadecimal, of any size. -/
def addressPart? (cs : List Char) : Option Nat :=
  match cs with
  | [] => none
  | '0' :: 'x' :: rest => numberIn? 16 rest
  | '0' :: 'X' :: rest => numberIn? 16 rest
  | '0' :: c :: rest => numberIn? 8 (c :: rest)
  | cs => numberIn? 10 cs

/-- The parts of a host between dots, without an empty one at the end. -/
def hostParts (cs : List Char) : List (List Char) :=
  let parts := cs.splitOn '.'
  if parts.length > 1 && parts.getLast? == some [] then parts.dropLast else parts

/-- Whether the last part of a host is a number. -/
def endsInNumber (cs : List Char) : Bool :=
  match (hostParts cs).getLast? with
  | none => false
  | some last => (!last.isEmpty && last.all Char.isDigit) || (addressPart? last).isSome

/-- Whether a host is an address of 32 bits. The last part fills what the others leave. -/
def isAddress4 (cs : List Char) : Bool :=
  match (hostParts cs).mapM addressPart? with
  | none => false
  | some numbers =>
    numbers.length ≤ 4 && numbers.dropLast.all (· < 256) &&
      numbers.getLast?.any fun n => n < Nat.pow 256 (5 - numbers.length)

/-! ### Hosts -/

/-- Checks a host in brackets. -/
def checkBracketed (cs : List Char) : Except UrlError Unit :=
  if cs.getLast? = some ']' ∧ (IpNetwork.address6? (cs.drop 1).dropLast).isSome then .ok ()
  else .error .invalidIpv6Address

/-- Checks a host, and gives its domain name. -/
def checkHost (cs : List Char) : Except UrlError (List Char) :=
  if cs.head? = some '[' then (checkBracketed cs).map fun _ => cs
  else
    match domain? cs with
    | none => .error .invalidDomainName
    | some name =>
      if name.isEmpty then .error .emptyHost
      else if endsInNumber name && !isAddress4 name then .error .invalidIpv4Address
      else .ok name

/-- Whether a character cannot stand in a host that is no domain name. -/
def isDeniedOpaque (c : Char) : Bool := "\x00\t\n\r #/:<>?@[\\]^|".toList.contains c

/-- Checks a host that is no domain name. -/
def checkOpaqueHost (cs : List Char) : Except UrlError (List Char) :=
  if cs.head? = some '[' then (checkBracketed cs).map fun _ => cs
  else if cs.any isDeniedOpaque then .error .invalidHostCharacter
  else .ok cs

end Url

end FeatureFlags
