import Mathlib.Algebra.GroupWithZero.Nat
import FeatureFlags.Uuid

/-!
# The text of an identifier

An identifier is read back from its text (`ofText?_text`). The text is read in groups: it has
another length than thirty-two digits without hyphens, and its first character is a digit, so that
it begins like none of the longer forms.
-/

set_option autoImplicit false

namespace FeatureFlags.Uuid

open Text

/-- Hexadecimal digits have their values. -/
theorem hexValues?_map_hexDigit (ds : List (Fin 16)) : hexValues? (ds.map hexDigit) = some ds := by
  induction ds with
  | nil => rfl
  | cons d ds ih => simp [hexValues?, hexValue?_hexDigit, ih]

/-- Between the groups there are hyphens, one less than groups. -/
theorem length_hyphenate {n : Nat} {ns : List Nat} {cs : List Char}
    (h : cs.length = (n :: ns).sum) : (hyphenate (n :: ns) cs).length = cs.length + ns.length := by
  induction ns generalizing n cs with
  | nil =>
    have hlength : cs.length = n := by simpa using h
    simp [hyphenate, hlength]
  | cons m ns ih =>
    have hdrop : (cs.drop n).length = (m :: ns).sum := by
      rw [List.sum_cons] at h
      rw [List.length_drop, h, Nat.add_sub_cancel_left]
    rw [List.sum_cons] at h
    simp only [hyphenate, List.length_append, List.length_cons, ih hdrop, List.length_take,
      List.length_drop]
    omega

/-- The groups of a text of the right length are joined to the text again. -/
theorem joinGroups?_hyphenate {n : Nat} {ns : List Nat} {cs : List Char}
    (h : cs.length = (n :: ns).sum) : joinGroups? (n :: ns) (hyphenate (n :: ns) cs) = some cs := by
  induction ns generalizing n cs with
  | nil =>
    have hlength : cs.length = n := by simpa using h
    simp [hyphenate, joinGroups?, hlength, List.take_of_length_le (Nat.le_of_eq hlength)]
  | cons m ns ih =>
    rw [List.sum_cons] at h
    have hdrop : (cs.drop n).length = (m :: ns).sum := by
      rw [List.length_drop, h, Nat.add_sub_cancel_left]
    have htake : (cs.take n).length = n := by
      rw [List.length_take]
      omega
    simp [hyphenate, joinGroups?, List.drop_left' htake, List.take_left' htake, ih hdrop,
      List.take_append_drop]

/-- No digit is the first character of a longer form. -/
theorem hexDigit_ne (d : Fin 16) : hexDigit d ≠ '\x7b' ∧ hexDigit d ≠ 'u' ∧ hexDigit d ≠ 'U' := by
  revert d; decide

/-- A text that begins like none of the other forms is read in groups. -/
theorem ofChars?_cons {c : Char} {cs : List Char} (hbrace : c ≠ '\x7b') (hlower : c ≠ 'u')
    (hupper : c ≠ 'U') (hlength : (c :: cs).length ≠ 32) :
    ofChars? (c :: cs) = ofHyphenated? (c :: cs) := by
  have hunbraced : unbrace? (c :: cs) = none := by
    unfold unbrace?
    split
    · next heq => exact absurd (List.cons.inj heq).1 hbrace
    · rfl
  have hurn : dropStart? "urn:uuid:".toList (c :: cs) = none := by
    simp [dropStart?, hlower.symm]
  have hURN : dropStart? "URN:UUID:".toList (c :: cs) = none := by
    simp [dropStart?, hupper.symm]
  unfold ofChars?
  rw [hunbraced, hurn, hURN]
  exact if_neg hlength

/-- An identifier is what its text denotes. -/
theorem ofText?_text (id : Uuid) : ofText? id.text = some id := by
  obtain ⟨digits, hdigits⟩ := id
  generalize hcs : hyphenate groups (digits.map hexDigit) = cs
  have hsum : (digits.map hexDigit).length = groups.sum := by
    rw [List.length_map, hdigits]
    rfl
  have hlength : cs.length ≠ 32 := by
    have hlong := length_hyphenate hsum
    rw [hsum] at hlong
    rw [← hcs]
    exact fun heq => absurd (hlong.symm.trans heq) (by decide)
  have hread : ofHyphenated? cs = some ⟨digits, hdigits⟩ := by
    have hjoin := joinGroups?_hyphenate hsum
    rw [← hcs]
    unfold ofHyphenated? groups
    rw [hjoin]
    simp [ofDigits?, hexValues?_map_hexDigit, hdigits]
  show ofChars? (text ⟨digits, hdigits⟩).toList = _
  rw [text, String.toList_ofList, hcs, ← hread]
  cases digits with
  | nil => exact nomatch hdigits
  | cons d ds =>
    obtain ⟨hbrace, hlower, hupper⟩ := hexDigit_ne d
    have hfirst : ∃ rest, cs = hexDigit d :: rest := ⟨_, hcs.symm⟩
    obtain ⟨rest, rfl⟩ := hfirst
    exact ofChars?_cons hbrace hlower hupper hlength

end FeatureFlags.Uuid
