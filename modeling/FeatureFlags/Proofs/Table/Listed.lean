import FeatureFlags.Proofs.Table.Order

/-!
# Tables of listed pairs

A table that is made of a list of pairs has no bindings but these pairs. If the pairs have different
keys, exactly they are found (`get?_ofList`), and if they are in order already, the table lists them
as they are (`bindings_ofList`).
-/

set_option autoImplicit false

namespace FeatureFlags.Table

variable {κ α : Type}

section Lookup

variable [DecidableEq κ]

/-- Nothing is found under a key exactly if no binding has it. -/
theorem find?_eq_none_iff {k : κ} {bs : List (κ × α)} :
    find? k bs = none ↔ k ∉ bs.map Prod.fst := by
  induction bs with
  | nil => simp [find?]
  | cons b rest ih =>
    unfold find?
    by_cases hk : k = b.1 <;> simp [hk, ih]

/-- Among bindings of different keys, each one is found. -/
theorem find?_of_mem {b : κ × α} {bs : List (κ × α)} (hkeys : (bs.map Prod.fst).Nodup)
    (hb : b ∈ bs) : find? b.1 bs = some b.2 := by
  induction bs with
  | nil => exact nomatch hb
  | cons c rest ih =>
    obtain ⟨hc, hrest⟩ := List.nodup_cons.mp hkeys
    rcases List.mem_cons.mp hb with rfl | hb
    · simp [find?]
    · have hne : b.1 ≠ c.1 := fun heq => hc (heq ▸ List.mem_map_of_mem hb)
      rw [find?, if_neg hne]
      exact ih hrest hb

end Lookup

/-- Keys that increase are different. -/
theorem AreOrdered.nodup [LT κ] [LE κ] [Std.LawfulOrderLT κ] {bs : List (κ × α)}
    (h : AreOrdered bs) : (bs.map Prod.fst).Nodup :=
  List.Pairwise.map _ (fun _ _ hlt => Std.ne_of_lt hlt) h

variable [DecidableEq κ] [LT κ] [DecidableLT κ] [LE κ] [Std.LawfulOrderLT κ] [Std.IsLinearOrder κ]

/-- After insertions under different keys a key has what was inserted under it, or what it had. -/
theorem get?_foldl_insert {pairs : List (κ × α)} (hkeys : (pairs.map Prod.fst).Nodup)
    (t : Table κ α) (k : κ) :
    (pairs.foldl (fun t p => t.insert p.1 p.2) t).get? k = (find? k pairs).or (t.get? k) := by
  induction pairs generalizing t with
  | nil => rfl
  | cons p rest ih =>
    obtain ⟨hp, hrest⟩ := List.nodup_cons.mp hkeys
    rw [List.foldl_cons, ih hrest, get?_insert, find?]
    by_cases hk : k = p.1
    · have hnone : find? p.1 rest = none := find?_eq_none_iff.mpr hp
      simp [hk, hnone]
    · simp [hk]

/-- Pairs with different keys are found in their table. -/
theorem get?_ofList {pairs : List (κ × α)} (hkeys : (pairs.map Prod.fst).Nodup) (k : κ) :
    (ofList pairs).get? k = find? k pairs := by
  rw [ofList, get?_foldl_insert hkeys, get?_empty, Option.or_none]

/-- After insertions a binding was there before or is one of them. -/
theorem mem_foldl_insert {pairs : List (κ × α)} {t : Table κ α} {b : κ × α}
    (h : b ∈ (pairs.foldl (fun t p => t.insert p.1 p.2) t).bindings) :
    b ∈ t.bindings ∨ b ∈ pairs := by
  induction pairs generalizing t with
  | nil => exact Or.inl h
  | cons p rest ih =>
    rcases ih h with h | h
    · rcases mem_place h with rfl | h
      · exact Or.inr List.mem_cons_self
      · exact Or.inl h
    · exact Or.inr (List.mem_cons_of_mem p h)

/-- The bindings of a table of pairs are among the pairs. -/
theorem mem_of_mem_ofList {pairs : List (κ × α)} {b : κ × α}
    (h : b ∈ (ofList pairs).bindings) : b ∈ pairs :=
  (mem_foldl_insert h).resolve_left fun hb => nomatch hb

/-- Bindings in order make up a table as they are. -/
theorem bindings_ofList {bs : List (κ × α)} (h : AreOrdered bs) : (ofList bs).bindings = bs :=
  eq_of_find?_eq (ofList bs).areOrdered h (get?_ofList h.nodup)

end FeatureFlags.Table
