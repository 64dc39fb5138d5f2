/-!
# Finite maps kept in key order

A `Table` lists its bindings by increasing key, so that the order in which a map is written out
is a property of the map and not of its history. Bindings are found by the first key that is
equal, which makes the laws of lookup hold of every list of bindings, sorted or not:

* `get?_insert`: a binding that was just written is found, all others are unchanged;
* `get?_erase`: an erased key is not found, all others are unchanged.
-/

set_option autoImplicit false

namespace FeatureFlags

namespace Table

variable {κ α β : Type}

/-- Whether the keys of some bindings increase. -/
def AreOrdered [LT κ] (bs : List (κ × α)) : Prop := bs.Pairwise fun b c => b.1 < c.1

/-- The first binding of `k` in a list of bindings. -/
def find? [DecidableEq κ] (k : κ) : List (κ × α) → Option α
  | [] => none
  | (k', v) :: rest => if k = k' then some v else find? k rest

/-- Writes a binding before the first larger key, over the binding of an equal one. -/
def place [DecidableEq κ] [LT κ] [DecidableLT κ] (k : κ) (v : α) : List (κ × α) → List (κ × α)
  | [] => [(k, v)]
  | (k', v') :: rest =>
    if k = k' then (k, v) :: rest
    else if k < k' then (k, v) :: (k', v') :: rest
    else (k', v') :: place k v rest

/-- Without the bindings of a key it is not found, and all others are as before. -/
theorem find?_filter_ne [DecidableEq κ] (k : κ) (bs : List (κ × α)) (j : κ) :
    find? j (bs.filter fun b => b.1 ≠ k) = if j = k then none else find? j bs := by
  induction bs with
  | nil => simp [find?]
  | cons b rest ih =>
    obtain ⟨k', v'⟩ := b
    rw [List.filter_cons]
    by_cases h : k' = k
    · subst h
      by_cases hj : j = k' <;> simp_all [find?]
    · by_cases hj : j = k
      · subst hj
        simp_all [find?, Ne.symm h]
      · by_cases hj' : j = k' <;> simp_all [find?]

/-- Other values leave the keys in order. -/
theorem areOrdered_map [LT κ] {bs : List (κ × α)} (h : AreOrdered bs) (f : α → β) :
    AreOrdered (bs.map fun b => (b.1, f b.2)) := by
  unfold AreOrdered
  rw [List.pairwise_map]
  exact h

section Place

variable [DecidableEq κ] [LT κ] [DecidableLT κ]

/-- A binding that was just written is found, and all others as before. -/
theorem find?_place (k : κ) (v : α) (bs : List (κ × α)) (j : κ) :
    find? j (place k v bs) = if j = k then some v else find? j bs := by
  induction bs with
  | nil => rfl
  | cons b rest ih =>
    obtain ⟨k', v'⟩ := b
    unfold place
    split
    · next h => subst h; by_cases hj : j = k <;> simp [find?, hj]
    · next h =>
      split
      · by_cases hj : j = k <;> simp [find?, hj]
      · by_cases hj : j = k'
        · subst hj
          simp [find?, Ne.symm h]
        · simp [find?, hj, ih]

/-- What is among the bindings after one was written was written or was there before. -/
theorem mem_place {k : κ} {v : α} {bs : List (κ × α)} {b : κ × α} (h : b ∈ place k v bs) :
    b = (k, v) ∨ b ∈ bs := by
  induction bs with
  | nil => exact Or.inl (List.mem_singleton.mp h)
  | cons c rest ih =>
    unfold place at h
    split at h
    · exact (List.mem_cons.mp h).imp_right (List.mem_cons_of_mem _)
    · split at h
      · exact List.mem_cons.mp h
      · rcases List.mem_cons.mp h with rfl | hrest
        · exact Or.inr (List.mem_cons_self ..)
        · exact (ih hrest).imp_right (List.mem_cons_of_mem _)

/-- Writing a binding keeps the order of the keys. -/
theorem areOrdered_place [LE κ] [Std.LawfulOrderLT κ] [Std.IsLinearOrder κ]
    {bs : List (κ × α)} (h : AreOrdered bs) (k : κ) (v : α) : AreOrdered (place k v bs) := by
  induction bs with
  | nil => exact List.pairwise_singleton ..
  | cons c rest ih =>
    obtain ⟨hfirst, hrest⟩ := List.pairwise_cons.mp h
    unfold place
    split
    next heq => exact List.pairwise_cons.mpr ⟨fun b hb => heq ▸ hfirst b hb, hrest⟩
    next hne =>
      split
      next hlt =>
        refine List.pairwise_cons.mpr ⟨fun b hb => ?_, h⟩
        rcases List.mem_cons.mp hb with rfl | hb
        · exact hlt
        · exact Std.lt_trans hlt (hfirst b hb)
      next hge =>
        refine List.pairwise_cons.mpr ⟨fun b hb => ?_, ih hrest⟩
        rcases mem_place hb with rfl | hb
        · exact Std.lt_of_le_of_ne (Std.not_lt.mp hge) (Ne.symm hne)
        · exact hfirst b hb

end Place

end Table

/-- A finite map from `κ` to `α`, written in key order. -/
structure Table (κ α : Type) [LT κ] where
  /-- The bindings. -/
  bindings : List (κ × α)
  /-- Their keys increase. -/
  areOrdered : Table.AreOrdered bindings
deriving Repr, DecidableEq

namespace Table

variable {κ α β : Type} [LT κ]

/-- Tables with the same bindings are the same. -/
theorem eq_of_bindings_eq {t u : Table κ α} (h : t.bindings = u.bindings) : t = u := by
  cases t
  cases u
  cases h
  rfl

/-- The map without bindings. -/
def empty : Table κ α := ⟨[], List.Pairwise.nil⟩

instance : Inhabited (Table κ α) := ⟨empty⟩

/-- Whether the map has no bindings. -/
def isEmpty (t : Table κ α) : Bool := t.bindings.isEmpty

/-- The keys, in order. -/
def keys (t : Table κ α) : List κ := t.bindings.map Prod.fst

/-- The values, in key order. -/
def values (t : Table κ α) : List α := t.bindings.map Prod.snd

/-- Applies `f` to every value. -/
def map (f : α → β) (t : Table κ α) : Table κ β :=
  ⟨t.bindings.map fun b => (b.1, f b.2), areOrdered_map t.areOrdered f⟩

variable [DecidableEq κ]

/-- The value bound to `k`. -/
def get? (t : Table κ α) (k : κ) : Option α := find? k t.bindings

/-- Whether `k` is bound. -/
def contains (t : Table κ α) (k : κ) : Bool := (t.get? k).isSome

/-- Removes the binding of `k`. -/
def erase (t : Table κ α) (k : κ) : Table κ α :=
  ⟨t.bindings.filter fun b => b.1 ≠ k, List.Pairwise.filter _ t.areOrdered⟩

section Insert

variable [DecidableLT κ] [LE κ] [Std.LawfulOrderLT κ] [Std.IsLinearOrder κ]

/-- Binds `k` to `v`, in place of any earlier binding of `k`. -/
def insert (t : Table κ α) (k : κ) (v : α) : Table κ α :=
  ⟨place k v t.bindings, areOrdered_place t.areOrdered k v⟩

/-- Inserts the pairs from left to right, so that the last of two pairs with one key stays. -/
def ofList (pairs : List (κ × α)) : Table κ α :=
  pairs.foldl (fun t p => t.insert p.1 p.2) empty

end Insert

/-! ### Laws of lookup -/

/-- Nothing is found in the map without bindings. -/
@[simp] theorem get?_empty (k : κ) : (empty : Table κ α).get? k = none := rfl

/-- An inserted binding is found, and all others as before. -/
@[simp] theorem get?_insert [DecidableLT κ] [LE κ] [Std.LawfulOrderLT κ] [Std.IsLinearOrder κ]
    (t : Table κ α) (k : κ) (v : α) (j : κ) :
    (t.insert k v).get? j = if j = k then some v else t.get? j :=
  find?_place k v t.bindings j

/-- An erased key is not found, and all others are as before. -/
@[simp] theorem get?_erase (t : Table κ α) (k : κ) (j : κ) :
    (t.erase k).get? j = if j = k then none else t.get? j :=
  find?_filter_ne k t.bindings j

end Table

end FeatureFlags
