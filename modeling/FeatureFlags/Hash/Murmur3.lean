/-!
# MurmurHash3

The 32-bit variant of MurmurHash3 for little-endian blocks. The hash is part of the contract with
the server: both sides have to put the same contexts into the same shares.
-/

set_option autoImplicit false

namespace FeatureFlags.Murmur3

/-- A word with its bits rotated to the left. -/
def rotateLeft (x : UInt32) (n : UInt32) : UInt32 := (x <<< n) ||| (x >>> (32 - n))

/-- A little-endian word of at most four octets. -/
def word : List UInt8 → UInt32
  | [] => 0
  | b :: rest => b.toUInt32 ||| (word rest <<< 8)

/-- A block before it is mixed into the hash. -/
def scramble (k : UInt32) : UInt32 := rotateLeft (k * 0xcc9e2d51) 15 * 0x1b873593

/-- Mixes all blocks into the hash, and at last the octets that are left over. -/
def absorb (h : UInt32) : List UInt8 → UInt32
  | a :: b :: c :: d :: rest =>
    absorb (rotateLeft (h ^^^ scramble (word [a, b, c, d])) 13 * 5 + 0xe6546b64) rest
  | [] => h
  | rest => h ^^^ scramble (word rest)

/-- Spreads every bit of the hash over all bits. -/
def finish (h : UInt32) : UInt32 :=
  let h := (h ^^^ (h >>> 16)) * 0x85ebca6b
  let h := (h ^^^ (h >>> 13)) * 0xc2b2ae35
  h ^^^ (h >>> 16)

/-- The hash of a list of octets. -/
def hash (seed : UInt32) (bytes : List UInt8) : UInt32 :=
  finish (absorb seed bytes ^^^ UInt32.ofNat bytes.length)

end FeatureFlags.Murmur3
