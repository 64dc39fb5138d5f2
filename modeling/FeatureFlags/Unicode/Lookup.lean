import FeatureFlags.Unicode.CaseFolding
import FeatureFlags.Unicode.Category
import FeatureFlags.Unicode.CharSet
import FeatureFlags.Unicode.Property
import FeatureFlags.Unicode.Script

/-!
# Classes of characters by name

The set of characters with a named property, and the closure of a set under letter case. Names
are compared without regard to case, blanks, hyphens and underscores, and to a leading `is`.
-/

set_option autoImplicit false

namespace FeatureFlags.Unicode

/-- A name without case and separators. -/
def normalizeName (cs : List Char) : String :=
  let plain (cs : List Char) : List Char :=
    (cs.filter fun c => c.toNat < 0x80 && c != ' ' && c != '_' && c != '-').map Char.toLower
  match cs with
  | i :: s :: rest =>
    if i.toLower = 'i' ∧ s.toLower = 's' then
      let name := plain rest
      -- the abbreviation of a property of its own
      String.ofList (if name = ['c'] then ['i', 's', 'c'] else name)
    else String.ofList (plain cs)
  | _ => String.ofList (plain cs)

/-- The entry of a table with a given name. -/
def lookup? (table : List (List String × String)) (name : String) : Option CharSet :=
  (table.find? fun row => row.1.contains name).map fun row => CharSet.ofText row.2

/-- The general categories that a group of them consists of. -/
def categoryGroups : List (List String × List String) := [
  (["l", "letter"], ["lu", "ll", "lt", "lm", "lo"]),
  (["lc", "casedletter"], ["lu", "ll", "lt"]),
  (["m", "mark", "combiningmark"], ["mn", "mc", "me"]),
  (["n", "number"], ["nd", "nl", "no"]),
  (["p", "punctuation", "punct"], ["pc", "pd", "ps", "pe", "pi", "pf", "po"]),
  (["s", "symbol"], ["sm", "sc", "sk", "so"]),
  (["z", "separator"], ["zs", "zl", "zp"]),
  (["c", "other"], ["cc", "cf", "cn", "co"])]

/-- The characters of a general category or of a group of them. -/
def category? (name : String) : Option CharSet :=
  match lookup? categories name with
  | some s => some s
  | none =>
    match categoryGroups.find? fun row => row.1.contains name with
    | some row =>
      some (row.2.foldl (fun s part => s.union ((lookup? categories part).getD [])) [])
    | none =>
      if name = "any" then some [(0, CharSet.maxChar)]
      else if name = "ascii" then some [(0, 0x7F)]
      else if name = "assigned" then
        (lookup? categories "cn").map (CharSet.complement CharSet.maxChar)
      else if name = "cs" ∨ name = "surrogate" then some []
      else none

/-- The characters of a script. -/
def script? (name : String) : Option CharSet := lookup? scripts name

/-- The characters with a binary property, of a general category or of a script. Three names are
those of a category although they also abbreviate a property. -/
def named? (name : String) : Option CharSet :=
  let property := if name = "cf" ∨ name = "sc" ∨ name = "lc" then none else lookup? properties name
  property <|> category? name <|> script? name

/-- The characters for which a property has a value. -/
def valued? (property value : String) : Option CharSet :=
  if property = "gc" ∨ property = "generalcategory" then category? value
  else if property = "sc" ∨ property = "script" then script? value
  else none

/-- The decimal digits. -/
def decimalDigits : CharSet := (category? "nd").getD []

/-- White space. -/
def whiteSpace : CharSet := (lookup? properties "whitespace").getD []

/-- The characters of words: letters, marks, digits, connectors and joiners. -/
def wordChars : CharSet :=
  [lookup? properties "alphabetic", category? "m", category? "nd", category? "pc",
    lookup? properties "joincontrol"].foldl (fun s t => s.union (t.getD [])) []

/-- Whether a character is one of words. -/
def isWordChar (c : Char) : Bool :=
  if c.toNat < 0x80 then c.isAlphanum || c == '_' else wordChars.contains c.toNat

/-- Whether a character is alphabetic. -/
def isAlphabetic (c : Char) : Bool :=
  if c.toNat < 0x80 then c.isAlpha
  else ((lookup? properties "alphabetic").getD []).contains c.toNat

/-- Whether a character is alphabetic or a number. -/
def isAlphanumeric (c : Char) : Bool :=
  isAlphabetic c || ((category? "n").getD []).contains c.toNat

/-- The pairs of a character and another one that it folds to. -/
def foldings : List (Nat × Nat) :=
  (CharSet.words simpleFoldings.toList).map fun w =>
    (CharSet.hexNumber (w.takeWhile (· ≠ ':')), CharSet.hexNumber ((w.dropWhile (· ≠ ':')).drop 1))

/-- A set with all characters that differ from its members only in letter case. -/
def caseClosure (s : CharSet) : CharSet :=
  -- what the members fold to, and then everything that folds to the same
  let folded := foldings.foldl (fun t p => if s.contains p.1 then t.addRange p.2 p.2 else t) s
  foldings.foldl (fun t p => if folded.contains p.2 then t.addRange p.1 p.1 else t) folded

end FeatureFlags.Unicode
