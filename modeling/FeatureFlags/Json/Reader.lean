import FeatureFlags.Json.Document
import FeatureFlags.Text.Ascii
import FeatureFlags.Text.Utf8

/-!
# Reading JSON text

A reader takes the octets of a text and returns the document and the octets behind it. Only the
form of the text is checked here: white space, brackets, words, escapes and numerals. What a
string or numeral stands for is computed on the way, and kept as missing where no value can hold
it.

Numerals are accumulated digit by digit in 64 bits. Digits that no longer fit count only with
their place, and the result is scaled by powers of ten of at most `10 ^ 308` with a rounding at
every step. The result is therefore not always the number nearest to the numeral.
-/

set_option autoImplicit false

namespace FeatureFlags.Json

open Text

/-- Octets behind white space. -/
def skipBlank : List UInt8 → List UInt8
  | [] => []
  | b :: rest =>
    if b = 0x20 ∨ b = 0x0A ∨ b = 0x0D ∨ b = 0x09 then skipBlank rest else b :: rest

/-- The value of an octet that is a decimal digit. -/
def digit? (b : UInt8) : Option Nat :=
  if 0x30 ≤ b ∧ b ≤ 0x39 then some (b.toNat - 0x30) else none

/-- The longest initial run of digits, and the octets behind it. -/
def digits : List UInt8 → List Nat × List UInt8
  | [] => ([], [])
  | b :: rest =>
    match digit? b with
    | some d => let (ds, left) := digits rest; (d :: ds, left)
    | none => ([], b :: rest)

/-! ### Numerals -/

/-- A numeral: its sign, its digits before and behind the point, and its exponent. -/
structure Numeral where
  /-- Whether there is a minus sign. -/
  negative : Bool
  /-- The digits before the point. -/
  whole : List Nat
  /-- The digits behind the point, if there is one. -/
  fraction : Option (List Nat)
  /-- The sign of the exponent, `true` for minus, and its digits, if there is one. -/
  exponent : Option (Bool × List Nat)
deriving Repr, DecidableEq

/-- The greatest significand. -/
def maxSignificand : Nat := Nat.pow 2 64 - 1

/-- The significand that digits append to another one as long as it fits, and the digits that are
left. -/
def accumulate (significand : Nat) : List Nat → Nat × List Nat
  | [] => (significand, [])
  | d :: rest =>
    if 10 * significand + d ≤ maxSignificand then accumulate (10 * significand + d) rest
    else (significand, d :: rest)

/-- The value of an exponent, or `none` if it does not fit into 31 bits. -/
def exponentValue (ds : List Nat) : Option Nat :=
  let n := ds.foldl (fun n d => 10 * n + d) 0
  if n ≤ Nat.pow 2 31 - 1 then some n else none

/-- The power `10 ^ n`, rounded. -/
def powerOfTen (n : Nat) : Binary64 := .ofNat (Nat.pow 10 n)

/-- A number divided by `10 ^ 308` as often as it takes to bring a negative exponent above
`-309`; zero needs no more steps. -/
def scaleDown (x : Binary64) (exponent : Nat) : Nat → Binary64
  | 0 => x
  | fuel + 1 =>
    if exponent ≤ 308 then x.div (powerOfTen exponent)
    else if x.isZero then x
    else scaleDown (x.div (powerOfTen 308)) (exponent - 308) fuel

/-- The number `significand * 10 ^ exponent`, rounded at every step, if it is in range. -/
def scale? (significand : Nat) (exponent : Int) : Option Binary64 :=
  let x := Binary64.ofNat significand
  if exponent < 0 then some (scaleDown x exponent.natAbs 8)
  else if 308 < exponent then if x.isZero then some x else none
  else
    let product := x.mul (powerOfTen exponent.natAbs)
    if product.isInfinite then none else some product

/-- A number with a sign. -/
def signed (negative : Bool) (x : Binary64) : Binary64 := if negative then x.negate else x

/-- The number of a numeral with a fraction or an exponent, or of a whole number that is too long
to be an integer. -/
def Numeral.float? (numeral : Numeral) : Option Binary64 :=
  let (whole, dropped) := accumulate 0 numeral.whole
  let fraction := numeral.fraction.getD []
  let (significand, unused) := accumulate whole fraction
  let places : Int := (dropped.length : Int) - ((fraction.length - unused.length : Nat) : Int)
  let magnitude : Option Binary64 :=
    match numeral.exponent with
    | none => scale? significand places
    | some (down, ds) =>
      match exponentValue ds with
      | some n => scale? significand (if down then places - (n : Int) else places + (n : Int))
      | none => if significand = 0 ∨ down then some (.zero false) else none
  magnitude.map (signed numeral.negative)

/-- The number of a numeral, if it is in range. A whole number that fits is an integer, except
for a negative zero. -/
def Numeral.number? (numeral : Numeral) : Option Number :=
  match numeral.fraction, numeral.exponent, accumulate 0 numeral.whole with
  | none, none, (n, []) =>
    if numeral.negative = false then some (.int n)
    else if n = 0 ∨ Nat.pow 2 63 < n then some (.float (Binary64.ofNat n).negate)
    else some (.int (-(n : Int)))
  | _, _, _ => numeral.float?.map .float

/-- The whole part of a numeral: a single zero, or digits that start with another one. -/
def readWhole : List UInt8 → Option (List Nat × List UInt8)
  | bytes =>
    match digits bytes with
    | ([], _) => none
    | (0 :: _ :: _, _) => none
    | (ds, rest) => some (ds, rest)

/-- The fraction of a numeral, if it starts here. -/
def readFraction : List UInt8 → Option (Option (List Nat) × List UInt8)
  | 0x2E :: rest =>
    match digits rest with
    | ([], _) => none
    | (ds, rest) => some (some ds, rest)
  | bytes => some (none, bytes)

/-- The exponent of a numeral, if it starts here. -/
def readExponent : List UInt8 → Option (Option (Bool × List Nat) × List UInt8)
  | [] => some (none, [])
  | b :: rest =>
    if b = 0x65 ∨ b = 0x45 then
      let (down, rest) :=
        match rest with
        | 0x2B :: rest => (false, rest)
        | 0x2D :: rest => (true, rest)
        | rest => (false, rest)
      match digits rest with
      | ([], _) => none
      | (ds, rest) => some (some (down, ds), rest)
    else some (none, b :: rest)

/-- A numeral. -/
def readNumeral (bytes : List UInt8) : Option (Numeral × List UInt8) := do
  let (negative, bytes) :=
    match bytes with
    | 0x2D :: rest => (true, rest)
    | bytes => (false, bytes)
  let (whole, bytes) ← readWhole bytes
  let (fraction, bytes) ← readFraction bytes
  let (exponent, bytes) ← readExponent bytes
  some (⟨negative, whole, fraction, exponent⟩, bytes)

/-! ### Strings -/

/-- A part of a string: an octet that stands for itself, or a 16-bit unit in an escape. -/
inductive Piece where
  /-- An octet of UTF-8. -/
  | octet (b : UInt8)
  /-- The unit of an escape by number. -/
  | unit (n : Nat)
deriving Repr, DecidableEq

/-- The octet that an escape by letter stands for. -/
def simpleEscape? (b : UInt8) : Option UInt8 :=
  if b = 0x22 then some 0x22
  else if b = 0x5C then some 0x5C
  else if b = 0x2F then some 0x2F
  else if b = 0x62 then some 0x08
  else if b = 0x66 then some 0x0C
  else if b = 0x6E then some 0x0A
  else if b = 0x72 then some 0x0D
  else if b = 0x74 then some 0x09
  else none

/-- The value of an octet that is a hexadecimal digit. -/
def hex? (b : UInt8) : Option Nat := (hexValue? (Char.ofNat b.toNat)).map Fin.val

/-- The number of four hexadecimal digits. -/
def hexUnit? (a b c d : UInt8) : Option Nat := do
  let w ← hex? a
  let x ← hex? b
  let y ← hex? c
  let z ← hex? d
  some (4096 * w + 256 * x + 16 * y + z)

/-- The pieces of a string up to its closing quotation mark, and the octets behind it. -/
def readPieces : List UInt8 → Option (List Piece × List UInt8)
  | [] => none
  | 0x22 :: rest => some ([], rest)
  | 0x5C :: 0x75 :: a :: b :: c :: d :: rest => do
    let n ← hexUnit? a b c d
    let (pieces, left) ← readPieces rest
    some (.unit n :: pieces, left)
  | 0x5C :: e :: rest => do
    let b ← simpleEscape? e
    let (pieces, left) ← readPieces rest
    some (.octet b :: pieces, left)
  | b :: rest =>
    if b < 0x20 then none
    else do
      let (pieces, left) ← readPieces rest
      some (.octet b :: pieces, left)

/-- Whether a unit is the first half of a surrogate pair. -/
def isHighSurrogate (n : Nat) : Bool := 0xD800 ≤ n && n ≤ 0xDBFF

/-- Whether a unit is the second half of a surrogate pair. -/
def isLowSurrogate (n : Nat) : Bool := 0xDC00 ≤ n && n ≤ 0xDFFF

/-- The octets of the pieces of a string, unless a surrogate stands alone. -/
def assemble : List Piece → Option (List UInt8)
  | [] => some []
  | .octet b :: rest => (assemble rest).map (b :: ·)
  | .unit m :: .unit n :: rest =>
    if isHighSurrogate m then
      if isLowSurrogate n then
        let c := 0x10000 + (m - 0xD800) * 0x400 + (n - 0xDC00)
        (assemble rest).map (String.utf8EncodeChar (Char.ofNat c) ++ ·)
      else none
    else if isLowSurrogate m then none
    else (assemble (.unit n :: rest)).map (String.utf8EncodeChar (Char.ofNat m) ++ ·)
  | .unit m :: rest =>
    if isHighSurrogate m ∨ isLowSurrogate m then none
    else (assemble rest).map (String.utf8EncodeChar (Char.ofNat m) ++ ·)

/-- The text of the pieces of a string, if they are one. -/
def pieceText? (pieces : List Piece) : Option String := do
  let bytes ← assemble pieces
  let text ← decodeUtf8? bytes
  some (String.ofList text)

/-- A string behind its opening quotation mark. -/
def readString (bytes : List UInt8) : Option (Option String × List UInt8) :=
  (readPieces bytes).map fun (pieces, rest) => (pieceText? pieces, rest)

/-! ### Documents -/

/-- The octets behind a word, if they start with it. -/
def readWord : List UInt8 → List UInt8 → Option (List UInt8)
  | [], bytes => some bytes
  | w :: ws, b :: rest => if w = b then readWord ws rest else none
  | _ :: _, [] => none

mutual

/-- A document, with white space in front of it. The first argument bounds the number of steps. -/
def readDocument : Nat → List UInt8 → Option (Document × List UInt8)
  | 0, _ => none
  | fuel + 1, bytes =>
    match skipBlank bytes with
    | [] => none
    | 0x22 :: rest => (readString rest).map fun (s, rest) => (.string s, rest)
    | 0x5B :: rest =>
      match skipBlank rest with
      | 0x5D :: rest => some (.array [], rest)
      | rest => (readItems fuel rest).map fun (items, rest) => (.array items, rest)
    | 0x7B :: rest =>
      match skipBlank rest with
      | 0x7D :: rest => some (.object [], rest)
      | rest => (readMembers fuel rest).map fun (members, rest) => (.object members, rest)
    | 0x6E :: rest => (readWord [0x75, 0x6C, 0x6C] rest).map fun rest => (.null, rest)
    | 0x74 :: rest => (readWord [0x72, 0x75, 0x65] rest).map fun rest => (.bool true, rest)
    | 0x66 :: rest => (readWord [0x61, 0x6C, 0x73, 0x65] rest).map fun rest => (.bool false, rest)
    | bytes => (readNumeral bytes).map fun (n, rest) => (.number n.number?, rest)

/-- The items of an array up to its closing bracket. -/
def readItems : Nat → List UInt8 → Option (List Document × List UInt8)
  | 0, _ => none
  | fuel + 1, bytes => do
    let (item, rest) ← readDocument fuel bytes
    match skipBlank rest with
    | 0x2C :: rest =>
      let (items, rest) ← readItems fuel rest
      some (item :: items, rest)
    | 0x5D :: rest => some ([item], rest)
    | _ => none

/-- The members of an object up to its closing brace. -/
def readMembers : Nat → List UInt8 → Option (List (Option String × Document) × List UInt8)
  | 0, _ => none
  | fuel + 1, bytes =>
    match skipBlank bytes with
    | 0x22 :: rest => do
      let (key, rest) ← readString rest
      match skipBlank rest with
      | 0x3A :: rest =>
        let (value, rest) ← readDocument fuel rest
        match skipBlank rest with
        | 0x2C :: rest =>
          let (members, rest) ← readMembers fuel rest
          some ((key, value) :: members, rest)
        | 0x7D :: rest => some ([(key, value)], rest)
        | _ => none
      | _ => none
    | _ => none

end

namespace Document

/-- The document that a list of octets is the text of. Every step of the reader consumes an
octet, except the first one of an item or a document. -/
def ofOctets? (bytes : List UInt8) : Option Document :=
  match readDocument (2 * bytes.length + 1) bytes with
  | some (d, rest) => if (skipBlank rest).isEmpty then some d else none
  | none => none

/-- The document that a string is the text of. -/
def ofText? (s : String) : Option Document := ofOctets? (octets s)

end Document

/-- The value that a string is the text of. -/
def ofText? (s : String) : Option Json := do
  let d ← Document.ofText? s
  d.value? .text

end FeatureFlags.Json
