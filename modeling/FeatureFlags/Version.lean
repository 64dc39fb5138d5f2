import FeatureFlags.Text.Ascii
import FeatureFlags.Text.Blank

/-!
# Semantic versions

A version is three numbers, a list of pre-release identifiers and a list of build identifiers.
The strict grammar allows no leading zeros in numbers and no number of more than 64 bits. Versions
are totally ordered: by their numbers, then a pre-release before its release, and at last by
their build identifiers, a version without any first.

A shorthand version may leave out the last number, or the last two, and may start with `v`.
-/

set_option autoImplicit false

namespace FeatureFlags

open Text

/-- A semantic version. -/
structure Version where
  /-- Incremented for incompatible changes. -/
  major : Nat
  /-- Incremented for compatible additions. -/
  minor : Nat
  /-- Incremented for fixes. -/
  patch : Nat
  /-- The identifiers of a pre-release, none for a release. -/
  preRelease : List (List Char)
  /-- The identifiers of a build. -/
  build : List (List Char)
deriving DecidableEq, Repr

namespace Version

/-! ### Order -/

/-- Whether an identifier is a number. -/
def isNumeric (identifier : List Char) : Bool := identifier.all Char.isDigit

/-- The order of two texts, character by character. -/
def compareChars : List Char → List Char → Ordering
  | [], [] => .eq
  | [], _ :: _ => .lt
  | _ :: _, [] => .gt
  | c :: cs, d :: ds => (compare c.toNat d.toNat).then (compareChars cs ds)

/-- The order of two identifiers: numbers by value, then by the number of their leading zeros;
other identifiers as texts, and behind all numbers. -/
def compareIdentifiers (a b : List Char) : Ordering :=
  match isNumeric a, isNumeric b with
  | true, true =>
    let x := a.dropWhile (· == '0')
    let y := b.dropWhile (· == '0')
    ((compare x.length y.length).then (compareChars x y)).then (compare a.length b.length)
  | true, false => .lt
  | false, true => .gt
  | false, false => compareChars a b

/-- The order of two lists of identifiers: by the first that differ, and then by length. -/
def compareLists : List (List Char) → List (List Char) → Ordering
  | [], [] => .eq
  | [], _ :: _ => .lt
  | _ :: _, [] => .gt
  | a :: as, b :: bs => (compareIdentifiers a b).then (compareLists as bs)

/-- The order of two pre-releases. A release comes behind all of its pre-releases. -/
def comparePreReleases : List (List Char) → List (List Char) → Ordering
  | [], [] => .eq
  | [], _ :: _ => .gt
  | _ :: _, [] => .lt
  | as, bs => compareLists as bs

/-- The order of two versions. -/
def order (v w : Version) : Ordering :=
  ((((compare v.major w.major).then (compare v.minor w.minor)).then (compare v.patch w.patch)).then
    (comparePreReleases v.preRelease w.preRelease)).then (compareLists v.build w.build)

/-! ### Reading -/

/-- The greatest number in a version. -/
def maxNumber : Nat := Nat.pow 2 64 - 1

/-- A number without leading zeros and of at most 64 bits. -/
def number? (cs : List Char) : Option Nat :=
  if cs.isEmpty ∨ ¬ isNumeric cs then none
  else if cs.head? = some '0' ∧ cs.length ≠ 1 then none
  else if digitsValue cs ≤ maxNumber then some (digitsValue cs) else none

/-- Whether a character may occur in an identifier. -/
def isIdentifierChar (c : Char) : Bool := c.isAlphanum || c == '-'

/-- Identifiers separated by dots, none of them empty. -/
def identifiers? (cs : List Char) : Option (List (List Char)) :=
  let parts := cs.splitOn '.'
  if parts.all fun p => !p.isEmpty && p.all isIdentifierChar then some parts else none

/-- The identifiers of a pre-release: as of a build, but numbers have no leading zeros. -/
def preRelease? (cs : List Char) : Option (List (List Char)) := do
  let parts ← identifiers? cs
  if parts.any fun p => isNumeric p && p.length ≠ 1 && p.head? == some '0' then none
  else some parts

/-- What stands before and behind the first occurrence of a character. -/
def cut (c : Char) (cs : List Char) : List Char × Option (List Char) :=
  match cs.dropWhile (· ≠ c) with
  | [] => (cs, none)
  | _ :: rest => (cs.takeWhile (· ≠ c), some rest)

/-- An optional part that has to be readable if it is there. -/
def readOptional {α : Type} (read : α → Option (List (List Char))) :
    Option α → Option (List (List Char))
  | none => some []
  | some x => read x

/-- The strict semantic version that a text denotes. -/
def ofStrict? (cs : List Char) : Option Version := do
  let (rest, build) := cut '+' cs
  let (numbers, preRelease) := cut '-' rest
  match numbers.splitOn '.' with
  | [major, minor, patch] =>
    let major ← number? major
    let minor ← number? minor
    let patch ← number? patch
    let preRelease ← readOptional preRelease? preRelease
    let build ← readOptional identifiers? build
    some { major, minor, patch, preRelease, build }
  | _ => none

/-- The version that a text denotes, strictly or in shorthand, with white space around it and
letters `v` before it. A shorthand is completed by as many zeros as it lacks numbers, going by
the number of its dots. -/
def ofText? (s : String) : Option Version :=
  let cs := (trim s.toList).dropWhile (· == 'v')
  match ofStrict? cs, cs.count '.' with
  | some v, _ => some v
  | none, 0 => ofStrict? (cs ++ ['.', '0', '.', '0'])
  | none, 1 => ofStrict? (cs ++ ['.', '0'])
  | none, _ => none

end Version

end FeatureFlags
