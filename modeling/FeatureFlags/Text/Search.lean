/-!
# Texts inside texts

Whether a text starts with, ends with or contains another one.
-/

set_option autoImplicit false

namespace FeatureFlags.Text

/-- Whether `text` contains `part`, somewhere. -/
def hasInfix (part : List Char) : List Char → Bool
  | [] => part.isEmpty
  | c :: rest => part.isPrefixOf (c :: rest) || hasInfix part rest

/-- Whether `text` starts with `part`. -/
def startsWith (text part : String) : Bool := part.toList.isPrefixOf text.toList

/-- Whether `text` ends with `part`. -/
def endsWith (text part : String) : Bool := part.toList.isSuffixOf text.toList

/-- Whether `text` contains `part`. -/
def contains (text part : String) : Bool := hasInfix part.toList text.toList

/-- What is left of a text after a given beginning. -/
def dropStart? : List Char → List Char → Option (List Char)
  | [], cs => some cs
  | _ :: _, [] => none
  | p :: ps, c :: cs => if p = c then dropStart? ps cs else none

end FeatureFlags.Text
