import FeatureFlags.Json.Basic
import FeatureFlags.Text.Ascii

/-!
# JSON text

The compact text of a value: no white space, members in key order, and only the characters
escaped that a JSON string cannot hold.
-/

set_option autoImplicit false

namespace FeatureFlags.Json

open Text

/-- The text of one character inside a string. -/
def escape (c : Char) : List Char :=
  if c = '"' then ['\\', '"']
  else if c = '\\' then ['\\', '\\']
  else if c = '\x08' then ['\\', 'b']
  else if c = '\t' then ['\\', 't']
  else if c = '\n' then ['\\', 'n']
  else if c = '\x0c' then ['\\', 'f']
  else if c = '\r' then ['\\', 'r']
  else if c.toNat < 0x20 then ['\\', 'u', '0', '0'] ++ hexOctet (UInt8.ofNat c.toNat)
  else [c]

/-- The text of a string, with its quotation marks. -/
def quote (s : String) : List Char := '"' :: s.toList.flatMap escape ++ ['"']

mutual

/-- The text of a value. -/
def chars : Json → List Char
  | .null => ['n', 'u', 'l', 'l']
  | .bool true => ['t', 'r', 'u', 'e']
  | .bool false => ['f', 'a', 'l', 's', 'e']
  | .number n => n.text
  | .string s => quote s
  | .array items => '[' :: itemChars items ++ [']']
  | .object members => '\x7b' :: memberChars members ++ ['\x7d']

/-- The texts of a list of values, with commas between them. -/
def itemChars : List Json → List Char
  | [] => []
  | [x] => chars x
  | x :: rest => chars x ++ ',' :: itemChars rest

/-- The texts of a list of members, with commas between them. -/
def memberChars : List (String × Json) → List Char
  | [] => []
  | [(k, x)] => quote k ++ ':' :: chars x
  | (k, x) :: rest => quote k ++ ':' :: chars x ++ ',' :: memberChars rest

end

/-- The compact text of a value. -/
def compress (v : Json) : String := String.ofList v.chars

end FeatureFlags.Json
