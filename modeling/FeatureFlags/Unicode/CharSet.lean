import FeatureFlags.Text.Ascii

/-!
# Sets of characters

A set of characters is a list of ranges of character numbers, by increasing bounds and with gaps
between them. Ranges that touch are one range.
-/

set_option autoImplicit false

namespace FeatureFlags.Unicode

/-- A set of character numbers: ranges with both bounds, in order and apart from each other. -/
abbrev CharSet := List (Nat × Nat)

namespace CharSet

/-- The greatest character number. -/
def maxChar : Nat := 0x10FFFF

/-- Whether a number is in the set. -/
def contains (s : CharSet) (n : Nat) : Bool := s.any fun r => r.1 ≤ n && n ≤ r.2

/-- Adds a range to a set, and joins it with all ranges that it meets or touches. -/
def addRange (lo hi : Nat) : CharSet → CharSet
  | [] => [(lo, hi)]
  | (a, b) :: rest =>
    if hi + 1 < a then (lo, hi) :: (a, b) :: rest
    else if b + 1 < lo then (a, b) :: addRange lo hi rest
    else addRange (min lo a) (max hi b) rest

/-- The set of the given ranges, in any order. -/
def ofRanges (rs : List (Nat × Nat)) : CharSet := rs.foldl (fun s r => addRange r.1 r.2 s) []

/-- The set with one member. -/
def single (n : Nat) : CharSet := [(n, n)]

/-- The members of one of two sets. -/
def union (s t : CharSet) : CharSet := t.foldl (fun s r => addRange r.1 r.2 s) s

/-- The numbers from `next` to `last` that are not in a set. -/
def gaps (next last : Nat) : CharSet → CharSet
  | [] => if next ≤ last then [(next, last)] else []
  | (a, b) :: rest =>
    if next < a then (next, min last (a - 1)) :: gaps (b + 1) last rest else gaps (b + 1) last rest

/-- The numbers up to `last` that are not in a set. -/
def complement (last : Nat) (s : CharSet) : CharSet := gaps 0 last s

/-- The members of both of two sets. -/
def inter (s t : CharSet) : CharSet :=
  ofRanges <| s.flatMap fun r => t.filterMap fun q =>
    let lo := max r.1 q.1
    let hi := min r.2 q.2
    if lo ≤ hi then some (lo, hi) else none

/-- The members of the first set that are not in the second. -/
def diff (s t : CharSet) : CharSet := inter s (complement maxChar t)

/-- The members of exactly one of two sets. -/
def symmDiff (s t : CharSet) : CharSet := union (diff s t) (diff t s)

/-- Whether all members are characters of ASCII. -/
def isAscii (s : CharSet) : Bool := s.all fun r => r.2 ≤ 0x7F

/-- The number of a text of hexadecimal digits. -/
def hexNumber (cs : List Char) : Nat :=
  cs.foldl (fun n c => 16 * n + ((Text.hexValue? c).map Fin.val).getD 0) 0

/-- The range of a text with its bounds in hexadecimal digits and a hyphen between them, or with
one bound for both. -/
def rangeOfText (cs : List Char) : Nat × Nat :=
  let lo := cs.takeWhile (· ≠ '-')
  match cs.dropWhile (· ≠ '-') with
  | [] => (hexNumber lo, hexNumber lo)
  | _ :: hi => (hexNumber lo, hexNumber hi)

/-- The words of a text, which blanks and line ends separate. -/
def words (cs : List Char) : List (List Char) :=
  let step (c : Char) (acc : List (List Char)) : List (List Char) :=
    match acc with
    | [] => if c.isWhitespace then [[]] else [[c]]
    | w :: ws => if c.isWhitespace then [] :: w :: ws else (c :: w) :: ws
  (cs.foldr step []).filter fun w => !w.isEmpty

/-- The set of a text of ranges in order, with blanks between them. -/
def ofText (s : String) : CharSet := (words s.toList).map rangeOfText

end CharSet

end FeatureFlags.Unicode
