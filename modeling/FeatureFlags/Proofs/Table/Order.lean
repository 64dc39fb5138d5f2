import FeatureFlags.Table

/-!
# The order of a table

The bindings of a table are in the order of their keys, one for each key. So a table is determined
by what is found in it (`eq_of_get?_eq`).
-/

set_option autoImplicit false

namespace FeatureFlags.Table

variable {κ α β : Type}

/-- In a list of bindings with other values the values are found as they are now. -/
theorem find?_map [DecidableEq κ] (f : α → β) (bs : List (κ × α)) (k : κ) :
    find? k (bs.map fun b => (b.1, f b.2)) = (find? k bs).map f := by
  induction bs with
  | nil => rfl
  | cons b rest ih =>
    simp only [List.map_cons, find?, ih]
    split <;> rfl

variable [LT κ] [DecidableEq κ]

/-- In a table with other values the values are found as they are now. -/
theorem get?_map (t : Table κ α) (f : α → β) (k : κ) : (t.map f).get? k = (t.get? k).map f :=
  find?_map f t.bindings k

/-- A binding that is written leaves those of other keys in their places. -/
theorem filter_place [DecidableLT κ] (k : κ) (v : α) (bs : List (κ × α)) :
    (place k v bs).filter (fun b => b.1 ≠ k) = bs.filter fun b => b.1 ≠ k := by
  induction bs with
  | nil => simp [place]
  | cons c rest ih =>
    unfold place
    split
    next heq => simp [heq]
    next =>
      split
      · simp
      · rw [List.filter_cons, List.filter_cons, ih]

variable [LE κ] [Std.LawfulOrderLT κ]

/-- A key is not found among greater ones. -/
theorem find?_of_lt {k : κ} {bs : List (κ × α)} (h : ∀ b ∈ bs, k < b.1) : find? k bs = none := by
  induction bs with
  | nil => rfl
  | cons b rest ih =>
    have hne : k ≠ b.1 := Std.ne_of_lt (h b (List.mem_cons_self ..))
    unfold find?
    rw [if_neg hne]
    exact ih fun c hc => h c (List.mem_cons_of_mem _ hc)

variable [Std.IsLinearOrder κ]

/-! ### Equal tables -/

/-- The least key of bindings in order is found, and is not in bindings that are in order and
begin with a greater one. -/
theorem not_lt_of_find?_eq {b c : κ × α} {bs cs : List (κ × α)} (hc : AreOrdered (c :: cs))
    (h : ∀ k, find? k (b :: bs) = find? k (c :: cs)) : ¬ b.1 < c.1 := by
  intro hlt
  have hnone : find? b.1 (c :: cs) = none := by
    refine find?_of_lt fun d hd => ?_
    rcases List.mem_cons.mp hd with rfl | hd
    · exact hlt
    · exact Std.lt_trans hlt ((List.pairwise_cons.mp hc).1 d hd)
  have hfound := h b.1
  rw [hnone] at hfound
  simp [find?] at hfound

/-- Bindings in the order of their keys are given by what is found under each key. -/
theorem eq_of_find?_eq {bs cs : List (κ × α)} (hb : AreOrdered bs) (hc : AreOrdered cs)
    (h : ∀ k, find? k bs = find? k cs) : bs = cs := by
  induction bs generalizing cs with
  | nil =>
    cases cs with
    | nil => rfl
    | cons c cs => simpa [find?] using h c.1
  | cons b bs ih =>
    cases cs with
    | nil => simpa [find?] using h b.1
    | cons c cs =>
      have hkey : b.1 = c.1 := by
        have hle := Std.not_lt.mp (not_lt_of_find?_eq hc h)
        have hge := Std.not_lt.mp (not_lt_of_find?_eq hb fun k => (h k).symm)
        exact Std.le_antisymm hge hle
      have hvalue := h b.1
      simp only [find?, hkey, if_true, Option.some.injEq] at hvalue
      obtain ⟨hfirst, hbs⟩ := List.pairwise_cons.mp hb
      obtain ⟨hfirst', hcs⟩ := List.pairwise_cons.mp hc
      have hrest : bs = cs := by
        refine ih hbs hcs fun k => ?_
        by_cases hk : k = b.1
        · rw [hk, find?_of_lt hfirst, hkey, find?_of_lt hfirst']
        · have hfind := h k
          rwa [find?, find?, if_neg hk, if_neg (hkey ▸ hk)] at hfind
      rw [Prod.ext hkey hvalue, hrest]

/-- A table is determined by what is found in it. -/
theorem eq_of_get?_eq {t u : Table κ α} (h : ∀ k, t.get? k = u.get? k) : t = u :=
  eq_of_bindings_eq (eq_of_find?_eq t.areOrdered u.areOrdered h)

end FeatureFlags.Table
