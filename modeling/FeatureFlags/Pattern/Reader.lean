import FeatureFlags.Pattern.Class

/-!
# Reading patterns

The expression that a pattern denotes, if the pattern is valid. Patterns know no look-around and
no back-references, and a repetition needs something to repeat.
-/

set_option autoImplicit false

namespace FeatureFlags.Pattern

open Unicode (CharSet)

/-- A part of a concatenation. A change of flags is one that cannot be repeated. -/
inductive Part where
  /-- An expression. -/
  | expression (e : Expression)
  /-- A change of the flags. -/
  | flags

/-- The concatenation of parts, which are kept last first. -/
def joinParts (parts : List Part) : Expression :=
  parts.foldl
    (fun e p =>
      match p, e with
      | .flags, e => e
      | .expression a, .empty => a
      | .expression a, e => .concat a e)
    .empty

/-- The set of one character, with the other case if case is ignored. -/
def literal (flags : Flags) (c : Char) : Expression :=
  .chars (if flags.unicode ∨ c.toNat ≤ 0x7F then flags.close (.single c.toNat)
    else .single c.toNat)

/-- What the dot stands for. It has to be a character, and not any octet. -/
def dot? (flags : Flags) : Option Expression :=
  if ¬ flags.unicode then none
  else if flags.dotAll then some (.chars [(0, CharSet.maxChar)])
  else if flags.crlf then some (.chars [(0, 0x09), (0x0B, 0x0C), (0x0E, CharSet.maxChar)])
  else some (.chars [(0, 0x09), (0x0B, CharSet.maxChar)])

/-- A set as an expression. Octets that are no character of their own cannot be matched. -/
def setExpression? (flags : Flags) (s : CharSet) : Option Expression :=
  if flags.unicode ∨ s.isAscii then some (.chars s) else none

/-- The expression of an escape. -/
def escapeExpression? (flags : Flags) : Escape → Option Expression
  | .char c => some (literal flags c)
  | .octet _ => none
  | .set s => setExpression? flags s
  | .look l => some (.look l)

/-! ### Repetitions -/

/-- A decimal number of 32 bits, with blanks around it, and the pattern behind it. -/
def readCount (flags : Flags) (cs : List Char) : Option (Nat × List Char) :=
  let rec digits : Nat → List Char → List Char × List Char
    | 0, cs => ([], cs)
    | n + 1, cs =>
      match cs with
      | c :: rest =>
        if c.isDigit then
          let (ds, rest) := digits n (flags.skip rest)
          (c :: ds, rest)
        else ([], cs)
      | [] => ([], [])
  let cs := Text.trimLeft cs
  let (ds, rest) := digits cs.length cs
  let n := Text.digitsValue ds
  if ds.isEmpty ∨ Nat.pow 2 32 ≤ n then none else some (n, Text.trimLeft rest)

/-- A mark of preference behind a repetition, which does not decide whether there is a match. -/
def skipPreference : List Char → List Char
  | '?' :: rest => rest
  | cs => cs

/-- The numbers of a counted repetition, behind the opening brace. -/
def readBounds (flags : Flags) (cs : List Char) : Option ((Nat × Option Nat) × List Char) := do
  let (least, rest) ← readCount flags (flags.skip cs)
  match rest with
  | ',' :: rest =>
    match flags.skip rest with
    | '\x7d' :: rest => some ((least, none), skipPreference (flags.skip rest))
    | rest =>
      let (most, rest) ← readCount flags rest
      match rest with
      | '\x7d' :: rest =>
        if least ≤ most then some ((least, some most), skipPreference (flags.skip rest)) else none
      | _ => none
  | '\x7d' :: rest => some ((least, some least), skipPreference (flags.skip rest))
  | _ => none

/-- Repeats the last part. -/
def repeatLast? (least : Nat) (most : Option Nat) : List Part → Option (List Part)
  | .expression e :: parts => some (.expression (.times e least most) :: parts)
  | _ => none

/-! ### Groups -/

/-- Whether a character may occur in the name of a group. -/
def isNameChar (first : Bool) (c : Char) : Bool :=
  c == '_' || (!first && (c == '.' || c == '[' || c == ']')) ||
    (if first then Unicode.isAlphabetic c else Unicode.isAlphanumeric c)

/-- The name of a group, behind the angle bracket that opens it. -/
def readGroupName (cs : List Char) : Option (List Char × List Char) :=
  let name := cs.takeWhile (· ≠ '>')
  match cs.dropWhile (· ≠ '>'), name with
  | _ :: rest, c :: more =>
    if isNameChar true c ∧ more.all (isNameChar false) then some (name, rest) else none
  | _, _ => none

/-- How a group starts. -/
inductive GroupStart where
  /-- A group with a place in the result of a search, and its name if it has one. -/
  | capture (name : Option (List Char))
  /-- A group with flags of its own. -/
  | plain (flags : Flags)
  /-- Flags for the rest of the enclosing group. -/
  | flags (flags : Flags)

/-- The start of a group, behind its opening parenthesis. -/
def readGroupStart (flags : Flags) (cs : List Char) : Option (GroupStart × List Char) :=
  match flags.skip cs with
  | '?' :: 'P' :: '<' :: rest =>
    (readGroupName rest).map fun (name, rest) => (.capture (some name), rest)
  | '?' :: '<' :: '=' :: _ => none
  | '?' :: '<' :: '!' :: _ => none
  | '?' :: '<' :: rest =>
    (readGroupName rest).map fun (name, rest) => (.capture (some name), rest)
  | '?' :: rest => do
    let (inner, some?, rest) ← flags.readLetters true [] false rest
    match rest with
    | ')' :: rest => if some? then some (.flags inner, rest) else none
    | _ :: rest => some (.plain inner, rest)
    | [] => none
  | cs => some (.capture none, cs)

/-! ### Patterns -/

/-- What is known while a group is read: the flags in force, the names of groups so far, the
alternatives that are complete, and the parts of the current one, last first. -/
structure Progress where
  /-- The flags in force. -/
  flags : Flags
  /-- The names of groups so far. -/
  names : List (List Char)
  /-- The alternatives before the current one, last first. -/
  done : List Expression
  /-- The parts of the current alternative, last first. -/
  parts : List Part

/-- The expression of all alternatives. -/
def Progress.expression (p : Progress) : Expression :=
  p.done.foldl (fun e a => .either a e) (joinParts p.parts)

/-- Adds an expression to the current alternative. -/
def Progress.push (p : Progress) (e : Expression) : Progress :=
  { p with parts := .expression e :: p.parts }

/-- Reads a group up to its closing parenthesis, or a whole pattern up to its end if `nested` is
false. The result holds the expression, the names of groups so far and what is left. The second
argument bounds the number of steps. -/
def readParts (nested : Bool) : Nat → Progress → List Char →
    Option (Expression × List (List Char) × List Char)
  | 0, _, _ => none
  | n + 1, p, cs =>
    let flags := p.flags
    match flags.skip cs with
    | [] => if nested then none else some (p.expression, p.names, [])
    | ')' :: rest => if nested then some (p.expression, p.names, rest) else none
    | '|' :: rest =>
      readParts nested n { p with done := joinParts p.parts :: p.done, parts := [] } rest
    | '(' :: rest => do
      let (start, rest) ← readGroupStart flags rest
      match start with
      | .flags inner =>
        readParts nested n { p with flags := inner, parts := .flags :: p.parts } rest
      | .plain inner =>
        let (e, names, rest) ← readParts true n ⟨inner, p.names, [], []⟩ rest
        readParts nested n ({ p with names := names }.push e) rest
      | .capture name =>
        let names ←
          match name with
          | none => some p.names
          | some name => if name ∈ p.names then none else some (name :: p.names)
        let (e, names, rest) ← readParts true n ⟨flags, names, [], []⟩ rest
        readParts nested n ({ p with names := names }.push (.capture e)) rest
    | '[' :: rest => do
      let (s, rest) ← readBrackets flags (2 * rest.length + 2) rest
      let e ← setExpression? flags s
      readParts nested n (p.push e) rest
    | '?' :: rest => do
      let parts ← repeatLast? 0 (some 1) p.parts
      readParts nested n { p with parts := parts } (skipPreference rest)
    | '*' :: rest => do
      let parts ← repeatLast? 0 none p.parts
      readParts nested n { p with parts := parts } (skipPreference rest)
    | '+' :: rest => do
      let parts ← repeatLast? 1 none p.parts
      readParts nested n { p with parts := parts } (skipPreference rest)
    | '\x7b' :: rest => do
      let ((least, most), rest) ← readBounds flags rest
      let parts ← repeatLast? least most p.parts
      readParts nested n { p with parts := parts } rest
    | '.' :: rest => do
      let e ← dot? flags
      readParts nested n (p.push e) rest
    | '^' :: rest =>
      let l := if flags.multiLine then .lineStart flags.crlf else .textStart
      readParts nested n (p.push (.look l)) rest
    | '$' :: rest =>
      let l := if flags.multiLine then .lineEnd flags.crlf else .textEnd
      readParts nested n (p.push (.look l)) rest
    | '\\' :: rest => do
      let (escape, rest) ← readEscape flags rest
      let e ← escapeExpression? flags escape
      readParts nested n (p.push e) rest
    | c :: rest => readParts nested n (p.push (literal flags c)) rest

/-- The expression that a pattern denotes. Every step but the last consumes a character. -/
def Expression.ofPattern? (pattern : List Char) : Option Expression :=
  (readParts false (pattern.length + 1) ⟨.initial, [], [], []⟩ pattern).map Prod.fst

end FeatureFlags.Pattern
