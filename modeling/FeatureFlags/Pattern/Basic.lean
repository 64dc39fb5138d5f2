import FeatureFlags.Unicode.Lookup

/-!
# Regular expressions

An expression and the places of a text that it leads to. A text of `n` characters has `n + 1`
places, before, between and behind them; a set of places is a list of as many truth values. An
expression maps the set of places where a match may start to the set of places where it may end,
so that the cost of a search does not depend on how often a match could be tried.
-/

set_option autoImplicit false

namespace FeatureFlags.Pattern

open Unicode (CharSet)

/-- A side of a word that a place can be on. -/
inductive WordSide where
  /-- A word starts or ends here. -/
  | boundary
  /-- No word starts or ends here. -/
  | noBoundary
  /-- A word starts here. -/
  | start
  /-- A word ends here. -/
  | finish
  /-- No word reaches up to here. -/
  | startHalf
  /-- No word goes on from here. -/
  | finishHalf
deriving DecidableEq, Repr

/-- A condition on a place of a text. -/
inductive Look where
  /-- The start of the text. -/
  | textStart
  /-- The end of the text. -/
  | textEnd
  /-- The start of a line. With `crlf`, a carriage return and a line feed end a line together. -/
  | lineStart (crlf : Bool)
  /-- The end of a line. -/
  | lineEnd (crlf : Bool)
  /-- A place relative to words, of Unicode or of ASCII characters. -/
  | word (side : WordSide) (unicode : Bool)
deriving DecidableEq, Repr

/-- A regular expression. -/
inductive Expression where
  /-- The empty text. -/
  | empty
  /-- One character of a set. -/
  | chars (set : CharSet)
  /-- The empty text at some places. -/
  | look (l : Look)
  /-- One expression behind another. -/
  | concat (first second : Expression)
  /-- One of two expressions. -/
  | either (first second : Expression)
  /-- An expression at least `least` times, and at most `most` times if there is a bound. -/
  | times (body : Expression) (least : Nat) (most : Option Nat)
  /-- An expression with a place of its own in the result of a search. -/
  | capture (body : Expression)
deriving Repr

/-- A place of a text: the characters before and behind it. -/
structure Place where
  /-- The character before it, none at the start of the text. -/
  before : Option Char
  /-- The character behind it, none at the end of the text. -/
  behind : Option Char

/-- The places of a text, given the character before it. -/
def placesFrom (before : Option Char) : List Char → List Place
  | [] => [⟨before, none⟩]
  | c :: rest => ⟨before, some c⟩ :: placesFrom (some c) rest

/-- The places of a text. -/
def places (text : List Char) : List Place := placesFrom none text

/-- Whether a character belongs to a word. -/
def isWord (unicode : Bool) (c : Option Char) : Bool :=
  match c with
  | none => false
  | some c => if unicode then Unicode.isWordChar c else c.isAlphanum || c == '_'

/-- Whether a condition holds at a place. -/
def Look.holds (l : Look) (p : Place) : Bool :=
  match l with
  | .textStart => p.before.isNone
  | .textEnd => p.behind.isNone
  | .lineStart false => p.before.isNone || p.before == some '\n'
  | .lineEnd false => p.behind.isNone || p.behind == some '\n'
  | .lineStart true =>
    p.before.isNone || p.before == some '\n' ||
      (p.before == some '\r' && p.behind != some '\n')
  | .lineEnd true =>
    p.behind.isNone || p.behind == some '\r' ||
      (p.behind == some '\n' && p.before != some '\r')
  | .word side unicode =>
    let before := isWord unicode p.before
    let behind := isWord unicode p.behind
    match side with
    | .boundary => before != behind
    | .noBoundary => before == behind
    | .start => !before && behind
    | .finish => before && !behind
    | .startHalf => !before
    | .finishHalf => !behind

/-- A set of places of a text, one truth value for each. -/
abbrev PlaceSet := List Bool

/-- The places of both sets. -/
def unite (s t : PlaceSet) : PlaceSet := List.zipWith (· || ·) s t

/-- The places behind one character of a set, for starts in a set of places. -/
def advance (set : CharSet) (ps : List Place) (starts : PlaceSet) : PlaceSet :=
  false :: (List.zipWith (fun p start =>
    start && p.behind.any fun c => set.contains c.toNat) ps starts).dropLast

/-- The places of a set where a condition holds. -/
def keep (l : Look) (ps : List Place) (starts : PlaceSet) : PlaceSet :=
  List.zipWith (fun p start => start && l.holds p) ps starts

/-- Applies a function so many times, or fewer if it no longer changes anything. -/
def iterate (f : PlaceSet → PlaceSet) : Nat → PlaceSet → PlaceSet
  | 0, s => s
  | n + 1, s =>
    let t := f s
    if t = s then s else iterate f n t

/-- All places that a function reaches in at most so many steps, the start included. -/
def reach (f : PlaceSet → PlaceSet) : Nat → PlaceSet → PlaceSet
  | 0, s => s
  | n + 1, s =>
    let t := unite s (f s)
    if t = s then s else reach f n t

/-- The places where a match of an expression can end, for starts in a set of places. A text with
`n` places has no new end after `n` repetitions. -/
def Expression.ends (ps : List Place) : Expression → PlaceSet → PlaceSet
  | .empty, starts => starts
  | .chars set, starts => advance set ps starts
  | .look l, starts => keep l ps starts
  | .concat a b, starts => b.ends ps (a.ends ps starts)
  | .either a b, starts => unite (a.ends ps starts) (b.ends ps starts)
  | .times body least most, starts =>
    let first := iterate (body.ends ps) least starts
    match most with
    | none => reach (body.ends ps) ps.length first
    | some n => reach (body.ends ps) (min (n - least) ps.length) first
  | .capture body, starts => body.ends ps starts

/-- Whether a text has a match of an expression, anywhere. -/
def Expression.occursIn (e : Expression) (text : List Char) : Bool :=
  let ps := places text
  (e.ends ps (ps.map fun _ => true)).any id

end FeatureFlags.Pattern
