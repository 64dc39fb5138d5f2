import FeatureFlags.Pattern.Basic
import FeatureFlags.Table
import FeatureFlags.Text.Blank
import FeatureFlags.Text.Search

/-!
# Flags of patterns

The flags that a pattern can set for a part of itself, and the way they are written.
-/

set_option autoImplicit false

namespace FeatureFlags.Pattern

open Unicode (CharSet)

/-- How the parts of a pattern are read. -/
structure Flags where
  /-- Letters match letters of the other case. -/
  ignoreCase : Bool
  /-- Lines have starts and ends. -/
  multiLine : Bool
  /-- The dot matches ends of lines. -/
  dotAll : Bool
  /-- A carriage return and a line feed end a line together. -/
  crlf : Bool
  /-- Characters are those of Unicode, and not octets. -/
  unicode : Bool
  /-- Blanks and comments between parts are ignored. -/
  ignoreBlanks : Bool
deriving DecidableEq, Repr

/-- The flags at the start of a pattern. -/
def Flags.initial : Flags := ⟨false, false, false, false, true, false⟩

/-- A pattern behind blanks and comments. -/
def skipBlanks : Bool → List Char → List Char
  | _, [] => []
  | true, c :: rest => if c = '\n' then skipBlanks false rest else skipBlanks true rest
  | false, c :: rest =>
    if Text.isBlank c then skipBlanks false rest
    else if c = '#' then skipBlanks true rest
    else c :: rest

/-- A pattern behind the blanks and comments that are ignored. -/
def Flags.skip (flags : Flags) (cs : List Char) : List Char :=
  if flags.ignoreBlanks then skipBlanks false cs else cs

/-- A set with the characters of the other case, if case is ignored. -/
def Flags.close (flags : Flags) (s : CharSet) : CharSet :=
  if ¬ flags.ignoreCase then s
  else if flags.unicode then Unicode.caseClosure s
  else
    let lower := (s.inter [(0x41, 0x5A)]).map fun r => (r.1 + 0x20, r.2 + 0x20)
    let upper := (s.inter [(0x61, 0x7A)]).map fun r => (r.1 - 0x20, r.2 - 0x20)
    (s.union lower).union upper

/-- All characters or octets that are not in a set, or the set itself. -/
def Flags.negateIf (flags : Flags) (negated : Bool) (s : CharSet) : CharSet :=
  if negated then s.complement (if flags.unicode then CharSet.maxChar else 0xFF) else s

/-- Sets or clears the flag with a letter. -/
def Flags.set? (flags : Flags) (letter : Char) (on : Bool) : Option Flags :=
  if letter = 'i' then some { flags with ignoreCase := on }
  else if letter = 'm' then some { flags with multiLine := on }
  else if letter = 's' then some { flags with dotAll := on }
  else if letter = 'R' then some { flags with crlf := on }
  else if letter = 'u' then some { flags with unicode := on }
  else if letter = 'x' then some { flags with ignoreBlanks := on }
  -- which of several matches is preferred does not decide whether there is one
  else if letter = 'U' then some flags
  else none

/-- Letters of flags up to the end of the list of flags, which is a colon or a closing
parenthesis. A letter occurs at most once; those behind the hyphen clear their flags. The result
holds the new flags, whether there were any letters, and what is left. -/
def Flags.readLetters (flags : Flags) (on : Bool) (seen : List Char) (dangling : Bool) :
    List Char → Option (Flags × Bool × List Char)
  | [] => none
  | c :: rest =>
    if c = ':' ∨ c = ')' then
      if dangling then none else some (flags, !seen.isEmpty, c :: rest)
    else if c ∈ seen then none
    else if c = '-' then readLetters flags false (c :: seen) true rest
    else do
      let flags ← flags.set? c on
      readLetters flags on (c :: seen) false rest

end FeatureFlags.Pattern
