/-!
# The pieces of a text

A text is cut at every separator exactly if none of the pieces contains one and the text is what
comes of joining them (`splitOn_eq_iff`). At its first separator a text is cut in one way only
(`append_cons_inj`).
-/

set_option autoImplicit false

namespace FeatureFlags.Text

/-- No piece of a text contains the separator. -/
theorem not_mem_of_mem_splitOn {separator : Char} {cs piece : List Char}
    (h : piece ∈ cs.splitOn separator) : separator ∉ piece := by
  induction cs generalizing piece with
  | nil =>
    rw [List.mem_singleton.mp h]
    exact List.not_mem_nil
  | cons c cs ih =>
    rw [List.splitOn_cons_eq_if_modifyHead] at h
    split at h
    next =>
      rcases List.mem_cons.mp h with rfl | hpiece
      · exact List.not_mem_nil
      · exact ih hpiece
    next hc =>
      obtain ⟨first, rest, hpieces⟩ := List.exists_cons_of_ne_nil (cs.splitOn_ne_nil separator)
      rw [hpieces] at h ih
      rcases List.mem_cons.mp h with rfl | hpiece
      · have hfirst := ih List.mem_cons_self
        have hne : separator ≠ c := fun heq => hc (beq_iff_eq.mpr heq.symm)
        simp [hfirst, hne]
      · exact ih (List.mem_cons_of_mem _ hpiece)

/-- What it means that a text has certain pieces. -/
theorem splitOn_eq_iff {separator : Char} {cs : List Char} {pieces : List (List Char)} :
    cs.splitOn separator = pieces ↔
      pieces ≠ [] ∧ (∀ piece ∈ pieces, separator ∉ piece) ∧
        [separator].intercalate pieces = cs := by
  constructor
  · rintro rfl
    exact ⟨List.splitOn_ne_nil _ _, fun piece => not_mem_of_mem_splitOn, List.intercalate_splitOn _⟩
  · rintro ⟨hne, hpieces, rfl⟩
    exact List.splitOn_intercalate separator hpieces hne

/-- Texts are equal if they are up to the first separator and behind it. -/
theorem append_cons_inj {c : Char} {a b x y : List Char} (ha : c ∉ a) (hb : c ∉ b) :
    a ++ c :: x = b ++ c :: y ↔ a = b ∧ x = y := by
  induction a generalizing b with
  | nil =>
    cases b with
    | nil => simp
    | cons d b =>
      have hne : c ≠ d := List.ne_of_not_mem_cons hb
      simp [hne]
  | cons d a ih =>
    have hne : d ≠ c := Ne.symm (List.ne_of_not_mem_cons ha)
    cases b with
    | nil => simp [hne]
    | cons e b =>
      simp only [List.cons_append, List.cons.injEq, and_assoc,
        ih (List.not_mem_of_not_mem_cons ha) (List.not_mem_of_not_mem_cons hb)]

end FeatureFlags.Text
