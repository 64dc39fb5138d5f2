import FeatureFlags.Text.Ascii
import FeatureFlags.Text.Utf8

/-!
# SHA-256

The secure hash of a list of octets, and of a text in hexadecimal digits.
-/

set_option autoImplicit false

namespace FeatureFlags.Sha256

/-- The constants of the rounds. -/
def constants : List UInt32 :=
  [0x428a2f98, 0x71374491, 0xb5c0fbcf, 0xe9b5dba5, 0x3956c25b, 0x59f111f1, 0x923f82a4, 0xab1c5ed5,
   0xd807aa98, 0x12835b01, 0x243185be, 0x550c7dc3, 0x72be5d74, 0x80deb1fe, 0x9bdc06a7, 0xc19bf174,
   0xe49b69c1, 0xefbe4786, 0x0fc19dc6, 0x240ca1cc, 0x2de92c6f, 0x4a7484aa, 0x5cb0a9dc, 0x76f988da,
   0x983e5152, 0xa831c66d, 0xb00327c8, 0xbf597fc7, 0xc6e00bf3, 0xd5a79147, 0x06ca6351, 0x14292967,
   0x27b70a85, 0x2e1b2138, 0x4d2c6dfc, 0x53380d13, 0x650a7354, 0x766a0abb, 0x81c2c92e, 0x92722c85,
   0xa2bfe8a1, 0xa81a664b, 0xc24b8b70, 0xc76c51a3, 0xd192e819, 0xd6990624, 0xf40e3585, 0x106aa070,
   0x19a4c116, 0x1e376c08, 0x2748774c, 0x34b0bcb5, 0x391c0cb3, 0x4ed8aa4a, 0x5b9cca4f, 0x682e6ff3,
   0x748f82ee, 0x78a5636f, 0x84c87814, 0x8cc70208, 0x90befffa, 0xa4506ceb, 0xbef9a3f7, 0xc67178f2]

/-- The eight working words. -/
structure Words where
  /-- First word. -/
  a : UInt32
  /-- Second word. -/
  b : UInt32
  /-- Third word. -/
  c : UInt32
  /-- Fourth word. -/
  d : UInt32
  /-- Fifth word. -/
  e : UInt32
  /-- Sixth word. -/
  f : UInt32
  /-- Seventh word. -/
  g : UInt32
  /-- Eighth word. -/
  h : UInt32

/-- The words before the first block. -/
def Words.initial : Words :=
  ⟨0x6a09e667, 0xbb67ae85, 0x3c6ef372, 0xa54ff53a, 0x510e527f, 0x9b05688c, 0x1f83d9ab, 0x5be0cd19⟩

/-- A word with its bits rotated to the right. -/
def rotateRight (x : UInt32) (n : UInt32) : UInt32 := (x >>> n) ||| (x <<< (32 - n))

/-- The word that an octet list starts with, most significant octet first. -/
def bigEndian (bytes : List UInt8) : UInt32 :=
  bytes.foldl (fun w b => (w <<< 8) ||| b.toUInt32) 0

/-- The octets of a word, most significant first. -/
def wordOctets (w : UInt32) : List UInt8 :=
  [(w >>> 24).toUInt8, (w >>> 16).toUInt8, (w >>> 8).toUInt8, w.toUInt8]

/-- The message with its padding: a one bit, zeros, and its length in bits. -/
def pad (bytes : List UInt8) : List UInt8 :=
  let n := bytes.length
  let zeros := (119 - n % 64) % 64
  let bits := 8 * n
  let size := (List.range 8).map fun i => UInt8.ofNat (bits / Nat.pow 256 (7 - i))
  bytes ++ 0x80 :: List.replicate zeros 0 ++ size

/-- Extends a schedule, which is kept latest word first, by so many words. -/
def extend : Nat → List UInt32 → List UInt32
  | 0, w => w
  | n + 1, w =>
    let x := w.getD 14 0
    let y := w.getD 1 0
    let s := rotateRight x 7 ^^^ rotateRight x 18 ^^^ (x >>> 3)
    let t := rotateRight y 17 ^^^ rotateRight y 19 ^^^ (y >>> 10)
    extend n ((w.getD 15 0 + s + w.getD 6 0 + t) :: w)

/-- One round. -/
def round (s : Words) (kw : UInt32 × UInt32) : Words :=
  let sum1 := rotateRight s.e 6 ^^^ rotateRight s.e 11 ^^^ rotateRight s.e 25
  let choice := (s.e &&& s.f) ^^^ (~~~s.e &&& s.g)
  let t := s.h + sum1 + choice + kw.1 + kw.2
  let sum0 := rotateRight s.a 2 ^^^ rotateRight s.a 13 ^^^ rotateRight s.a 22
  let majority := (s.a &&& s.b) ^^^ (s.a &&& s.c) ^^^ (s.b &&& s.c)
  ⟨t + (sum0 + majority), s.a, s.b, s.c, s.d + t, s.e, s.f, s.g⟩

/-- Adds two lists of words, word by word. -/
def Words.add (s t : Words) : Words :=
  ⟨s.a + t.a, s.b + t.b, s.c + t.c, s.d + t.d, s.e + t.e, s.f + t.f, s.g + t.g, s.h + t.h⟩

/-- The words of a block of sixty-four octets. -/
def blockWords : Nat → List UInt8 → List UInt32
  | 0, _ => []
  | n + 1, bytes => bigEndian (bytes.take 4) :: blockWords n (bytes.drop 4)

/-- Mixes one block into the words. -/
def compress (s : Words) (block : List UInt8) : Words :=
  let schedule := (extend 48 (blockWords 16 block).reverse).reverse
  s.add ((constants.zip schedule).foldl round s)

/-- Mixes so many blocks into the words. -/
def absorb : Nat → Words → List UInt8 → Words
  | 0, s, _ => s
  | n + 1, s, bytes => absorb n (compress s (bytes.take 64)) (bytes.drop 64)

/-- The hash of a list of octets. -/
def hash (bytes : List UInt8) : List UInt8 :=
  let padded := pad bytes
  let s := absorb (padded.length / 64) .initial padded
  [s.a, s.b, s.c, s.d, s.e, s.f, s.g, s.h].flatMap wordOctets

/-- The hash of a text in lower-case hexadecimal digits. -/
def hexHash (s : String) : String :=
  String.ofList ((hash (Text.octets s)).flatMap Text.hexOctet)

end FeatureFlags.Sha256
