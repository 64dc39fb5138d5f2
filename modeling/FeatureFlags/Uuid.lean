import FeatureFlags.Text.Ascii
import FeatureFlags.Text.Search

/-!
# Universally unique identifiers

An identifier is thirty-two hexadecimal digits. It is written in five groups of lower-case
digits; it is also read without hyphens, in braces, with a prefix that names the kind of the
identifier, and in upper case.
-/

set_option autoImplicit false

namespace FeatureFlags

/-- A universally unique identifier. -/
structure Uuid where
  /-- The hexadecimal digits. -/
  digits : List (Fin 16)
  /-- There are thirty-two of them. -/
  length_eq : digits.length = 32
deriving DecidableEq, Repr

namespace Uuid

open Text

instance : LT Uuid := ⟨fun a b => a.digits < b.digits⟩

instance : DecidableLT Uuid := fun a b => inferInstanceAs (Decidable (a.digits < b.digits))

instance : LE Uuid := ⟨fun a b => ¬ b < a⟩

instance : Std.LawfulOrderLT Uuid where
  lt_iff a b := by
    constructor
    · intro h
      exact ⟨List.lt_asymm h, not_not_intro h⟩
    · rintro ⟨-, h⟩
      exact Decidable.not_not.mp h

/-- Identifiers are equal if their digits are. -/
theorem eq_of_digits_eq {a b : Uuid} (h : a.digits = b.digits) : a = b := by
  cases a
  cases b
  cases h
  rfl

instance : Std.IsLinearOrder Uuid where
  le_refl a := List.lt_irrefl a.digits
  le_trans a b c := @List.le_trans _ _ _ _ _ a.digits b.digits c.digits
  le_antisymm _ _ h h' := eq_of_digits_eq (List.le_antisymm h h')
  le_total a b := List.le_total a.digits b.digits

instance : Inhabited Uuid := ⟨⟨List.replicate 32 ⟨0, by decide⟩, List.length_replicate⟩⟩

/-- The lengths of the groups that hyphens separate. -/
def groups : List Nat := [8, 4, 4, 4, 12]

/-- A text in groups of the given lengths, with hyphens between them. -/
def hyphenate : List Nat → List Char → List Char
  | [], _ => []
  | [n], cs => cs.take n
  | n :: ns, cs => cs.take n ++ '-' :: hyphenate ns (cs.drop n)

/-- The text of groups of the given lengths without the hyphens between them. -/
def joinGroups? : List Nat → List Char → Option (List Char)
  | [], [] => some []
  | [], _ :: _ => none
  | [n], cs => if cs.length = n then some cs else none
  | n :: ns, cs =>
    match cs.drop n with
    | '-' :: rest => (joinGroups? ns rest).map (cs.take n ++ ·)
    | _ => none

/-- The values of a text of hexadecimal digits. -/
def hexValues? : List Char → Option (List (Fin 16))
  | [] => some []
  | c :: rest => do
    let d ← hexValue? c
    let ds ← hexValues? rest
    some (d :: ds)

/-- The identifier of thirty-two hexadecimal digits. -/
def ofDigits? (cs : List Char) : Option Uuid := do
  let ds ← hexValues? cs
  if h : ds.length = 32 then some ⟨ds, h⟩ else none

/-- The identifier that a text in groups denotes. -/
def ofHyphenated? (cs : List Char) : Option Uuid := do
  let digits ← joinGroups? groups cs
  ofDigits? digits

/-- The text between braces. -/
def unbrace? : List Char → Option (List Char)
  | '\x7b' :: rest =>
    match rest.getLast? with
    | some '\x7d' => some rest.dropLast
    | _ => none
  | _ => none

/-- The identifier that a text denotes: in groups, without hyphens, in groups and braces, or in
groups after `urn:uuid:` or `URN:UUID:`. -/
def ofChars? (cs : List Char) : Option Uuid :=
  match unbrace? cs, dropStart? "urn:uuid:".toList cs, dropStart? "URN:UUID:".toList cs with
  | some inner, _, _ => ofHyphenated? inner
  | _, some rest, _ => ofHyphenated? rest
  | _, _, some rest => ofHyphenated? rest
  | none, none, none => if cs.length = 32 then ofDigits? cs else ofHyphenated? cs

/-- The identifier that a string denotes. -/
def ofText? (s : String) : Option Uuid := ofChars? s.toList

/-- The text of an identifier: lower-case digits in groups. -/
def text (id : Uuid) : String := String.ofList (hyphenate groups (id.digits.map hexDigit))

end Uuid

end FeatureFlags
