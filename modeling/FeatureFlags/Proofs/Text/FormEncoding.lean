import FeatureFlags.Text.FormEncoding

/-!
# What a form-encoded text gives away

A recipient reads a form-encoded text as octets (`formOctets`): a plus sign as a space, a percent
sign with two hexadecimal digits as one octet, and every other character as its own octets. What
was encoded is what is read, so that no two texts have the same encoding. Nor can a text be
mistaken for what stands around it, because its encoding is made of few characters (`isFormChar`).
-/

set_option autoImplicit false

namespace FeatureFlags.Text

/-- Whether a character occurs in form-encoded texts. -/
def isFormChar (c : Char) : Bool := c.isAlphanum || ['*', '-', '.', '_', '+', '%'].contains c

/-- The octets that a form-encoded text stands for. -/
def formOctets : List Char → List UInt8
  | '%' :: a :: b :: rest =>
    match hexValue? a, hexValue? b with
    | some high, some low => UInt8.ofNat (16 * high.val + low.val) :: formOctets rest
    | _, _ => 0x25 :: formOctets (a :: b :: rest)
  | c :: rest => (if c = '+' then [0x20] else String.utf8EncodeChar c) ++ formOctets rest
  | [] => []

/-! ### Single octets -/

/-- A hexadecimal digit has its value. -/
theorem hexValue?_upperHexDigit (n : Fin 16) : hexValue? (upperHexDigit n) = some n := by
  revert n; decide

/-- Hexadecimal digits are characters of the code. -/
theorem isFormChar_upperHexDigit (n : Fin 16) : isFormChar (upperHexDigit n) = true := by
  revert n; decide

/-- An octet in percent code is two hexadecimal digits behind the sign. -/
theorem percentEncode_eq (b : UInt8) :
    percentEncode b =
      ['%', upperHexDigit (Fin.ofNat 16 (b.toNat / 16)), upperHexDigit (Fin.ofNat 16 b.toNat)] :=
  rfl

/-- Octets that stand for themselves are characters of the code. -/
theorem isFormChar_of_unreserved {b : UInt8} (h : isFormUnreserved b = true) :
    isFormChar (Char.ofNat b.toNat) = true := by
  simp only [isFormUnreserved, Bool.and_eq_true, Bool.or_eq_true, beq_iff_eq] at h
  unfold isFormChar
  rcases h.2 with (((h | h) | h) | h) | h <;> simp [h]

/-- An octet that stands for itself is no mark of the encoding. -/
theorem ne_of_unreserved {b : UInt8} (h : isFormUnreserved b = true) :
    Char.ofNat b.toNat ≠ '%' ∧ Char.ofNat b.toNat ≠ '+' := by
  unfold isFormUnreserved at h
  constructor <;>
  · intro heq
    simp only [heq] at h
    exact absurd (Bool.and_eq_true_iff.mp h).2 (by decide)

/-- Octets that stand for themselves are characters of one octet. -/
theorem utf8EncodeChar_of_unreserved {b : UInt8} (h : isFormUnreserved b = true) :
    String.utf8EncodeChar (Char.ofNat b.toNat) = [b] := by
  have hsmall : b.toNat < 0x80 := by
    unfold isFormUnreserved at h
    exact UInt8.lt_iff_toNat_lt.mp (of_decide_eq_true (Bool.and_eq_true_iff.mp h).1)
  have hvalue : (Char.ofNat b.toNat).val.toNat = b.toNat := by
    rw [Char.ofNat, dif_pos (Or.inl (by omega))]
    rfl
  unfold String.utf8EncodeChar
  simp only [hvalue]
  rw [if_pos (by omega), UInt8.ofNat_toNat]

/-- A character other than the percent sign is read by itself. -/
theorem formOctets_cons {c : Char} (h : c ≠ '%') (rest : List Char) :
    formOctets (c :: rest) =
      (if c = '+' then [0x20] else String.utf8EncodeChar c) ++ formOctets rest := by
  rw [formOctets]
  intro a b rest' hc
  exact absurd hc h

/-- The encoding of an octet is read as this octet. -/
theorem formOctets_formEncodeOctet (b : UInt8) (rest : List Char) :
    formOctets (formEncodeOctet b ++ rest) = b :: formOctets rest := by
  unfold formEncodeOctet
  split
  next h =>
    obtain ⟨hpercent, hplus⟩ := ne_of_unreserved h
    rw [List.singleton_append, formOctets_cons hpercent, if_neg hplus,
      utf8EncodeChar_of_unreserved h]
    rfl
  next =>
    split
    next hspace =>
      rw [List.singleton_append, formOctets_cons (by decide), hspace]
      rfl
    next =>
      have hlow : b.toNat < 256 := b.toNat_lt
      have hoctet : UInt8.ofNat (16 * (Fin.ofNat 16 (b.toNat / 16)).val +
          (Fin.ofNat 16 b.toNat).val) = b := by
        apply UInt8.toNat_inj.mp
        simp
        omega
      simp only [percentEncode_eq, List.cons_append, List.nil_append, formOctets,
        hexValue?_upperHexDigit, hoctet]

/-- The code of an octet has characters of the code only. -/
theorem isFormChar_of_mem_formEncodeOctet {b : UInt8} {c : Char} (h : c ∈ formEncodeOctet b) :
    isFormChar c = true := by
  unfold formEncodeOctet at h
  split at h
  next hb =>
    rw [List.mem_singleton.mp h]
    exact isFormChar_of_unreserved hb
  next =>
    split at h
    · rw [List.mem_singleton.mp h]
      decide
    · rw [percentEncode_eq, List.mem_cons, List.mem_cons, List.mem_singleton] at h
      rcases h with rfl | rfl | rfl
      · decide
      · exact isFormChar_upperHexDigit _
      · exact isFormChar_upperHexDigit _

/-! ### Texts -/

/-- What was encoded is what is read. -/
theorem formOctets_formEncode (s : String) : formOctets (formEncode s).toList = octets s := by
  have hoctets : ∀ bs : List UInt8, formOctets (bs.flatMap formEncodeOctet) = bs := by
    intro bs
    induction bs with
    | nil => rfl
    | cons b bs ih => rw [List.flatMap_cons, formOctets_formEncodeOctet, ih]
  unfold formEncode
  rw [String.toList_ofList, hoctets]

/-- The code of a text has characters of the code only. -/
theorem isFormChar_of_mem_formEncode {s : String} {c : Char} (h : c ∈ (formEncode s).toList) :
    isFormChar c = true := by
  unfold formEncode at h
  rw [String.toList_ofList] at h
  obtain ⟨b, -, hb⟩ := List.mem_flatMap.mp h
  exact isFormChar_of_mem_formEncodeOctet hb

/-- Different texts have different octets. -/
theorem octets_inj {s t : String} : octets s = octets t ↔ s = t := by
  refine ⟨fun h => ?_, congrArg octets⟩
  have hbytes : s.toList.utf8Encode = t.toList.utf8Encode := congrArg List.toByteArray h
  rw [String.utf8Encode_toList, String.utf8Encode_toList] at hbytes
  exact String.toByteArray_inj.mp hbytes

end FeatureFlags.Text
