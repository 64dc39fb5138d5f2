import FeatureFlags.Pattern.Flags

/-!
# Character classes of patterns

The classes in brackets and the escapes that stand for characters or sets of them. Every reader
takes the rest of a pattern and returns what it read and the rest behind it, or nothing if the
pattern is invalid.
-/

set_option autoImplicit false

namespace FeatureFlags.Pattern

open Unicode (CharSet)

/-- What an escape stands for. -/
inductive Escape where
  /-- One character. -/
  | char (c : Char)
  /-- One octet, where characters are octets. -/
  | octet (n : Nat)
  /-- A set of characters. -/
  | set (s : CharSet)
  /-- A condition on a place. -/
  | look (l : Look)

/-! ### Numbers -/

/-- Whether a character is a hexadecimal digit. -/
def isHex (c : Char) : Bool := (Text.hexValue? c).isSome

/-- So many hexadecimal digits, with blanks between them where they are ignored. -/
def readHexDigits (flags : Flags) : Nat → List Char → Option (List Char × List Char)
  | 0, cs => some ([], cs)
  | _ + 1, [] => none
  | n + 1, c :: rest =>
    if isHex c then
      match n with
      | 0 => some ([c], flags.skip rest)
      | n + 1 => do
        let (digits, rest) ← readHexDigits flags (n + 1) (flags.skip rest)
        some (c :: digits, rest)
    else none

/-- Hexadecimal digits up to a closing brace. The first argument bounds their number. -/
def readHexBraced (flags : Flags) : Nat → List Char → Option (List Char × List Char)
  | 0, _ => none
  | _ + 1, [] => none
  | n + 1, c :: rest =>
    if c = '\x7d' then some ([], flags.skip rest)
    else if isHex c then do
      let (digits, rest) ← readHexBraced flags n (flags.skip rest)
      some (c :: digits, rest)
    else none

/-- The character with a number in hexadecimal digits. -/
def hexChar? (digits : List Char) : Option Char :=
  let n := CharSet.hexNumber digits
  if digits.isEmpty ∨ ¬ n.isValidChar then none else some (Char.ofNat n)

/-- A character by number, behind the letter that tells the number of its digits. Two digits
without braces are an octet where characters are octets. -/
def readHexEscape (flags : Flags) (digits : Nat) (cs : List Char) : Option (Escape × List Char) :=
  match flags.skip cs with
  | '\x7b' :: rest => do
    let (ds, rest) ← readHexBraced flags (rest.length + 1) (flags.skip rest)
    let c ← hexChar? ds
    some (.char c, rest)
  | cs => do
    let (ds, rest) ← readHexDigits flags digits cs
    let c ← hexChar? ds
    if digits = 2 ∧ ¬ flags.unicode ∧ 0x7F < c.toNat then some (.octet c.toNat, rest)
    else some (.char c, rest)

/-! ### Named sets -/

/-- What stands before and behind the first occurrence of a text. -/
def splitAt? (mark : List Char) : List Char → Option (List Char × List Char)
  | [] => none
  | c :: rest =>
    match Text.dropStart? mark (c :: rest) with
    | some after => some ([], after)
    | none => (splitAt? mark rest).map fun (before, after) => (c :: before, after)

/-- The set that the text between the braces of a property denotes. -/
def propertySet? (body : List Char) : Option CharSet :=
  let valued (property value : List Char) : Option CharSet :=
    Unicode.valued? (Unicode.normalizeName property) (Unicode.normalizeName value)
  match splitAt? ['!', '='] body, splitAt? [':'] body, splitAt? ['='] body with
  | some (p, v), _, _ => (valued p v).map (CharSet.complement CharSet.maxChar)
  | none, some (p, v), _ => valued p v
  | none, none, some (p, v) => valued p v
  | none, none, none => Unicode.named? (Unicode.normalizeName body)

/-- The text up to a closing brace, without the blanks that are ignored. The first argument
bounds its length. -/
def readBraced (flags : Flags) : Nat → List Char → Option (List Char × List Char)
  | 0, _ => none
  | _ + 1, [] => none
  | n + 1, c :: rest =>
    if c = '\x7d' then some ([], rest)
    else do
      let (body, rest) ← readBraced flags n (flags.skip rest)
      some (c :: body, rest)

/-- A property, behind the letter that introduces it. -/
def readProperty (flags : Flags) (negated : Bool) (cs : List Char) :
    Option (Escape × List Char) :=
  if ¬ flags.unicode then none
  else
    let finish (set : CharSet) : CharSet := flags.negateIf negated (flags.close set)
    match flags.skip cs with
    | [] => none
    | '\x7b' :: rest => do
      let (body, rest) ← readBraced flags (rest.length + 1) (flags.skip rest)
      let set ← propertySet? body
      some (.set (finish set), rest)
    | c :: rest =>
      if c = '\\' then none
      else do
        let set ← Unicode.named? (Unicode.normalizeName [c])
        some (.set (finish set), flags.skip rest)

/-- Digits, white space or word characters. -/
def shorthandSet (flags : Flags) (letter : Char) : CharSet :=
  if flags.unicode then
    if letter = 'd' then Unicode.decimalDigits
    else if letter = 's' then Unicode.whiteSpace
    else Unicode.wordChars
  else
    if letter = 'd' then [(0x30, 0x39)]
    else if letter = 's' then [(0x09, 0x0D), (0x20, 0x20)]
    else [(0x30, 0x39), (0x41, 0x5A), (0x5F, 0x5F), (0x61, 0x7A)]

/-- The sets that have a name between colons. -/
def asciiClass? (name : String) : Option CharSet :=
  Table.find? name [
    ("alnum", [(0x30, 0x39), (0x41, 0x5A), (0x61, 0x7A)]),
    ("alpha", [(0x41, 0x5A), (0x61, 0x7A)]), ("ascii", [(0x00, 0x7F)]),
    ("blank", [(0x09, 0x09), (0x20, 0x20)]), ("cntrl", [(0x00, 0x1F), (0x7F, 0x7F)]),
    ("digit", [(0x30, 0x39)]), ("graph", [(0x21, 0x7E)]), ("lower", [(0x61, 0x7A)]),
    ("print", [(0x20, 0x7E)]),
    ("punct", [(0x21, 0x2F), (0x3A, 0x40), (0x5B, 0x60), (0x7B, 0x7E)]),
    ("space", [(0x09, 0x0D), (0x20, 0x20)]), ("upper", [(0x41, 0x5A)]),
    ("word", [(0x30, 0x39), (0x41, 0x5A), (0x5F, 0x5F), (0x61, 0x7A)]),
    ("xdigit", [(0x30, 0x39), (0x41, 0x46), (0x61, 0x66)])]

/-! ### Escapes -/

/-- Whether a character of ASCII stands for itself behind a backslash. -/
def isEscapable (c : Char) : Bool :=
  c.toNat < 0x80 && !c.isAlphanum && c != '<' && c != '>'

/-- Whether a character may occur in the name of a side of a word. -/
def isSideChar (c : Char) : Bool := c.isAlpha || c == '-'

/-- The name of a side of a word, up to its closing brace. The first argument bounds its
length. -/
def readSideName (flags : Flags) : Nat → List Char → Option (List Char × List Char)
  | 0, _ => none
  | _ + 1, [] => none
  | n + 1, c :: rest =>
    if isSideChar c then do
      let (name, rest) ← readSideName flags n (flags.skip rest)
      some (c :: name, rest)
    else if c = '\x7d' then some ([], rest)
    else none

/-- The side of a word behind the letter `b`: the one named in braces, or both sides. Braces that
cannot hold a name are left for a repetition. -/
def readWordSide (flags : Flags) (cs : List Char) : Option (WordSide × List Char) :=
  match cs with
  | '\x7b' :: rest =>
    match flags.skip rest with
    | [] => none
    | c :: inner =>
      if isSideChar c then do
        let (name, rest) ← readSideName flags (inner.length + 2) (c :: inner)
        let side ← Table.find? (String.ofList name)
          [("start", WordSide.start), ("end", .finish), ("start-half", .startHalf),
            ("end-half", .finishHalf)]
        some (side, rest)
      else some (.boundary, cs)
  | _ => some (.boundary, cs)

/-- The control characters that have a letter. -/
def controlChar? (c : Char) : Option Char :=
  Table.find? c [('a', '\x07'), ('f', '\x0c'), ('t', '\t'), ('n', '\n'), ('r', '\r'), ('v', '\x0b')]

/-- An escape, behind the backslash. -/
def readEscape (flags : Flags) (cs : List Char) : Option (Escape × List Char) :=
  match cs with
  | [] => none
  | c :: rest =>
    if c.isDigit then none
    else if c = 'x' then readHexEscape flags 2 rest
    else if c = 'u' then readHexEscape flags 4 rest
    else if c = 'U' then readHexEscape flags 8 rest
    else if c = 'p' ∨ c = 'P' then readProperty flags (c = 'P') rest
    else if c = 'd' ∨ c = 's' ∨ c = 'w' then some (.set (shorthandSet flags c), rest)
    else if c = 'D' ∨ c = 'S' ∨ c = 'W' then
      some (.set (flags.negateIf true (shorthandSet flags c.toLower)), rest)
    else if isEscapable c then some (.char c, rest)
    else if c = 'A' then some (.look .textStart, rest)
    else if c = 'z' then some (.look .textEnd, rest)
    else if c = 'b' then do
      let (side, rest) ← readWordSide flags rest
      some (.look (.word side flags.unicode), rest)
    else if c = 'B' then some (.look (.word .noBoundary flags.unicode), rest)
    else if c = '<' then some (.look (.word .start flags.unicode), rest)
    else if c = '>' then some (.look (.word .finish flags.unicode), rest)
    else (controlChar? c).map fun c => (.char c, rest)

/-! ### Brackets -/

/-- The operations between sets in brackets. -/
inductive SetOperation where
  /-- The members of both sets. -/
  | inter
  /-- The members of the first set only. -/
  | diff
  /-- The members of exactly one set. -/
  | symmDiff

/-- The result of an operation, and of no operation yet. -/
def SetOperation.apply (flags : Flags) (pending : Option (SetOperation × CharSet))
    (right : CharSet) : CharSet :=
  match pending with
  | none => right
  | some (op, left) =>
    let left := flags.close left
    let right := flags.close right
    match op with
    | .inter => left.inter right
    | .diff => left.diff right
    | .symmDiff => left.symmDiff right

/-- A named set between colons, behind the bracket and the colon that open it. -/
def readAsciiClass (flags : Flags) (cs : List Char) : Option (CharSet × List Char) := do
  let (negated, cs) :=
    match cs with
    | '^' :: rest => (true, rest)
    | cs => (false, cs)
  match Text.dropStart? [':', ']'] (cs.dropWhile (· ≠ ':')) with
  | some rest =>
    let set ← asciiClass? (String.ofList (cs.takeWhile (· ≠ ':')))
    some (flags.negateIf negated (flags.close set), rest)
  | none => none

/-- A member of brackets: a character, or an escape that stands for a character or a set. Where
characters are octets, a member has to be an octet. -/
def readMember (flags : Flags) (cs : List Char) : Option ((Nat ⊕ CharSet) × List Char) :=
  let ofChar (c : Char) : Option (Nat ⊕ CharSet) :=
    if flags.unicode ∨ c.toNat ≤ 0x7F then some (.inl c.toNat) else none
  match cs with
  | [] => none
  | '\\' :: rest => do
    let (e, rest) ← readEscape flags rest
    match e with
    | .char c => (ofChar c).map fun m => (m, rest)
    | .octet n => some (.inl n, rest)
    | .set s => some (.inr s, rest)
    | .look _ => none
  | c :: rest => (ofChar c).map fun m => (m, rest)

/-- A member or a range of characters. A hyphen before a closing bracket or another hyphen is no
range. -/
def readRange (flags : Flags) (cs : List Char) : Option (CharSet × List Char) := do
  let (first, rest) ← readMember flags cs
  let alone : CharSet := first.elim CharSet.single id
  match flags.skip rest with
  | '-' :: after =>
    match flags.skip after with
    | [] => none
    | c :: more =>
      if c = ']' ∨ c = '-' then some (alone, '-' :: after)
      else do
        let (second, rest) ← readMember flags (c :: more)
        match first, second with
        | .inl lo, .inl hi => if lo ≤ hi then some ([(lo, hi)], rest) else none
        | _, _ => none
  | rest => some (alone, rest)

/-- The hyphens at the start of brackets, which stand for themselves. -/
def readHyphens (flags : Flags) : Nat → List Char → Bool × List Char
  | 0, cs => (false, cs)
  | n + 1, cs =>
    match cs with
    | '-' :: rest => (true, (readHyphens flags n (flags.skip rest)).2)
    | cs => (false, cs)

mutual

/-- Brackets, behind the one that opens them. The first argument bounds the number of steps. -/
def readBrackets (flags : Flags) : Nat → List Char → Option (CharSet × List Char)
  | 0, _ => none
  | n + 1, cs => do
    let (negated, cs) :=
      match flags.skip cs with
      | '^' :: rest => (true, flags.skip rest)
      | cs => (false, cs)
    let (hyphens, cs) := readHyphens flags cs.length cs
    let (start, cs) : CharSet × List Char :=
      match hyphens, cs with
      | true, cs => (CharSet.single '-'.toNat, cs)
      | false, ']' :: rest => (CharSet.single ']'.toNat, flags.skip rest)
      | false, cs => ([], cs)
    let (set, rest) ← readMembers flags n none start cs
    some (flags.negateIf negated (flags.close set), rest)

/-- The members of brackets up to the closing one, given the operation that is not yet done and
the members read since. -/
def readMembers (flags : Flags) : Nat → Option (SetOperation × CharSet) → CharSet →
    List Char → Option (CharSet × List Char)
  | 0, _, _, _ => none
  | n + 1, pending, set, cs =>
    match flags.skip cs with
    | [] => none
    | ']' :: rest => some (SetOperation.apply flags pending set, rest)
    | '&' :: '&' :: rest =>
      readMembers flags n (some (.inter, SetOperation.apply flags pending set)) [] rest
    | '-' :: '-' :: rest =>
      readMembers flags n (some (.diff, SetOperation.apply flags pending set)) [] rest
    | '~' :: '~' :: rest =>
      readMembers flags n (some (.symmDiff, SetOperation.apply flags pending set)) [] rest
    | '[' :: rest =>
      let named :=
        match rest with
        | ':' :: rest => readAsciiClass flags rest
        | _ => none
      match named with
      | some (s, rest) => readMembers flags n pending (set.union s) rest
      | none => do
        let (s, rest) ← readBrackets flags n rest
        readMembers flags n pending (set.union s) rest
    | cs => do
      let (s, rest) ← readRange flags cs
      readMembers flags n pending (set.union s) rest

end

end FeatureFlags.Pattern
