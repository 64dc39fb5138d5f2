import Mathlib.Data.List.Basic
import Mathlib.Data.List.Induction
import FeatureFlags.Text.Ascii

/-!
# Numerals

Decimal numerals without leading zeros are those that core writes: the value of what was written
is the number (`digitsValue_toDigits`), and a numeral without leading zeros is what is written of
its value (`toDigits_digitsValue`). So a number has one such numeral.
-/

set_option autoImplicit false

namespace FeatureFlags.Text

/-! ### Digits -/

/-- The value of a digit is less than ten, and this digit is written of it. -/
theorem digitValue_of_isDigit {c : Char} (h : c.isDigit = true) :
    (digitValue? c).getD 0 < 10 ∧ Nat.digitChar ((digitValue? c).getD 0) = c := by
  have hbounds := h
  simp only [Char.isDigit, Bool.and_eq_true, decide_eq_true_eq] at hbounds
  have hlow : 48 ≤ c.toNat := UInt32.le_iff_toNat_le.mp hbounds.1
  have hhigh : c.toNat ≤ 57 := UInt32.le_iff_toNat_le.mp hbounds.2
  have hvalue : (digitValue? c).getD 0 = c.toNat - 48 := by
    simp [digitValue?, h]
  rw [hvalue]
  have hlt : c.toNat - 48 < 10 := by omega
  refine ⟨hlt, Char.toNat_inj.mp ?_⟩
  rw [Nat.toNat_digitChar_of_lt_ten hlt]
  omega

/-- A decimal digit has its value. -/
theorem digitValue_digitChar {n : Nat} (h : n < 10) :
    (digitValue? (Nat.digitChar n)).getD 0 = n := by
  revert n
  decide

/-- One more digit counts once, and all before it ten times as much. -/
theorem digitsValue_concat (cs : List Char) (c : Char) :
    digitsValue (cs ++ [c]) = 10 * digitsValue cs + (digitValue? c).getD 0 := by
  simp [digitsValue]

/-! ### Numerals without leading zeros -/

/-- Whether a text begins with a zero only if it is nothing else. -/
def HasNoLeadingZero (cs : List Char) : Prop := cs.head? = some '0' → cs.length = 1

/-- The value of what is written of a number is this number. -/
theorem digitsValue_toDigits (n : Nat) : digitsValue (Nat.toDigits 10 n) = n := by
  induction n using Nat.strongRecOn with
  | ind n ih =>
    rw [Nat.toDigits_eq_if (by decide)]
    split
    next hlt =>
      have hvalue := digitsValue_concat [] (Nat.digitChar n)
      rw [List.nil_append, digitValue_digitChar hlt] at hvalue
      simpa [digitsValue] using hvalue
    next hge =>
      rw [digitsValue_concat, ih (n / 10) (by omega), digitValue_digitChar (by omega)]
      omega

/-- A number is written in digits. -/
theorem isDigit_of_mem_toDigits {n : Nat} {c : Char} (h : c ∈ Nat.toDigits 10 n) :
    c.isDigit = true :=
  Nat.isDigit_of_mem_toDigits (by decide) (by decide) h

/-- A numeral that begins with a zero is that of zero. -/
theorem eq_zero_of_head?_toDigits {n : Nat} (h : (Nat.toDigits 10 n).head? = some '0') : n = 0 := by
  induction n using Nat.strongRecOn with
  | ind n ih =>
    rw [Nat.toDigits_eq_if (by decide)] at h
    split at h
    next hlt =>
      have hvalue := digitValue_digitChar hlt
      rw [List.head?_cons, Option.some.injEq] at h
      rw [← hvalue, h]
      rfl
    next hge =>
      rw [List.head?_append_of_ne_nil _ Nat.toDigits_ne_nil] at h
      have hzero := ih (n / 10) (by omega) h
      omega

/-- A number is written without leading zeros. -/
theorem hasNoLeadingZero_toDigits (n : Nat) : HasNoLeadingZero (Nat.toDigits 10 n) := by
  intro hhead
  rw [eq_zero_of_head?_toDigits hhead]
  rfl

/-- A numeral without leading zeros is what is written of its value. -/
theorem toDigits_digitsValue {cs : List Char} (hne : cs ≠ []) (hdigits : ∀ c ∈ cs, c.isDigit = true)
    (hzero : HasNoLeadingZero cs) : Nat.toDigits 10 (digitsValue cs) = cs := by
  induction cs using List.reverseRecOn with
  | nil => exact absurd rfl hne
  | append_singleton cs c ih =>
    obtain ⟨hlt, hchar⟩ := digitValue_of_isDigit (hdigits c (by simp))
    rw [digitsValue_concat]
    by_cases hcs : cs = []
    · subst hcs
      rw [show digitsValue [] = 0 from rfl, Nat.mul_zero, Nat.zero_add,
        Nat.toDigits_of_lt_base hlt, hchar, List.nil_append]
    · -- the first digit is not zero, so what stands before the last one is not zero either
      have hhead : cs.head? ≠ some '0' := by
        intro h
        have hlength := hzero (by rwa [List.head?_append_of_ne_nil cs hcs])
        rw [List.length_append, List.length_singleton, Nat.add_eq_right] at hlength
        exact hcs (List.eq_nil_of_length_eq_zero hlength)
      have hwritten := ih hcs (fun d hd => hdigits d (List.mem_append_left _ hd))
        (fun h => absurd h hhead)
      have hpos : 0 < digitsValue cs := by
        rw [Nat.pos_iff_ne_zero]
        intro hvalue
        rw [hvalue] at hwritten
        exact hhead (hwritten ▸ rfl)
      rw [← Nat.toDigits_append_toDigits (by decide) hpos hlt, hwritten,
        Nat.toDigits_of_lt_base hlt, hchar]

end FeatureFlags.Text
