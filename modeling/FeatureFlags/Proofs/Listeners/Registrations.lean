import Mathlib.Data.List.Induction
import FeatureFlags.Proofs.Repository.Journal

/-!
# Registrations of listeners

A listener that registers gets a handle, by which it is cancelled. Handles outlive the registrations
that they stand for, but no two of them are equal, so an old one cancels nothing of somebody
else. The registrations in a list are those that were neither cancelled nor cleared away since they
were made, in their order (`registered_iff`, `pairwise_registered`).

A round calls everybody who is registered. A listener that fails breaks off nothing but its own
call, so the main statement can say whom a round reaches without asking who fails.
-/

set_option autoImplicit false

namespace FeatureFlags.Listeners

variable {α β : Type}

/-! ### Histories -/

/-- What is done with a list. -/
inductive Act (α : Type) where
  /-- Registers a listener. -/
  | add (x : α)
  /-- Cancels by the handle of a registration, which is told by how many there were before. -/
  | cancel (n : Nat)
  /-- Removes all registrations. -/
  | clear
deriving DecidableEq, Repr

namespace Act

/-- Whether an act is a registration. -/
def isAddition : Act α → Bool
  | add _ => true
  | _ => false

/-- The same act with other listeners. -/
def map (f : α → β) : Act α → Act β
  | add x => add (f x)
  | cancel n => cancel n
  | clear => clear

end Act

/-- How many registrations there were. -/
def additions (acts : List (Act α)) : Nat := acts.countP Act.isAddition

/-- A list and the handles that were given out. -/
structure Registry (α : Type) where
  /-- The list. -/
  listeners : Listeners α
  /-- The handles, in the order in which they were given out. -/
  handles : List ListenerId

namespace Registry

/-- What an act makes of a list. A handle that was not given out cannot be used. -/
def act (r : Registry α) : Act α → Registry α
  | .add x => ⟨r.listeners.add x, r.handles ++ [r.listeners.nextId]⟩
  | .cancel n => { r with listeners := r.handles[n]?.elim r.listeners r.listeners.cancel }
  | .clear => { r with listeners := r.listeners.clear }

/-- What a history makes of an empty list. -/
def after (acts : List (Act α)) : Registry α := acts.foldl act ⟨.empty, []⟩

/-- A history ends with its last act. -/
@[simp] theorem after_concat (acts : List (Act α)) (a : Act α) :
    after (acts ++ [a]) = (after acts).act a := by
  simp [after]

/-- The same list with other listeners. -/
def map (f : α → β) (r : Registry α) : Registry β :=
  ⟨⟨r.listeners.nextId, r.listeners.registered.map (Prod.map id f)⟩, r.handles⟩

/-- What is done with a list does not depend on who is in it. -/
theorem act_map (f : α → β) (r : Registry α) (a : Act α) :
    (r.map f).act (a.map f) = (r.act a).map f := by
  cases a with
  | add x => simp [act, map, Act.map, Listeners.add]
  | cancel n =>
    show (⟨r.handles[n]?.elim (r.map f).listeners (r.map f).listeners.cancel, r.handles⟩ :
      Registry β) = _
    cases h : r.handles[n]? with
    | none => simp [act, map, h]
    | some m =>
      -- numbers are compared, and they are the same
      have hkept : (r.map f).listeners.registered.filter (fun p => p.1 ≠ m) =
          (r.listeners.registered.filter fun p => p.1 ≠ m).map (Prod.map id f) := by
        show (r.listeners.registered.map (Prod.map id f)).filter _ = _
        rw [List.filter_map]
        rfl
      simp only [act, map, h, Option.elim_some, Listeners.cancel]
      rw [← hkept]
      rfl
  | clear => rfl

/-- The numbers and handles of a history do not depend on who registers. -/
theorem after_map (f : α → β) (acts : List (Act α)) :
    after (acts.map (Act.map f)) = (after acts).map f := by
  induction acts using List.reverseRecOn with
  | nil => rfl
  | append_singleton acts a ih =>
    rw [List.map_append, List.map_singleton, after_concat, after_concat, ih, act_map]

end Registry

open Registry (after)

/-- Whether a registration stands: there was one with this number, and since then the list was not
cleared and the registration not cancelled. -/
def Stands (acts : List (Act α)) (n : Nat) (x : α) : Prop :=
  ∃ before since, acts = before ++ .add x :: since ∧ additions before = n ∧
    .clear ∉ since ∧ .cancel n ∉ since

/-- No registration stands in an empty history. -/
theorem not_stands_nil (n : Nat) (x : α) : ¬ Stands [] n x := by
  rintro ⟨before, since, h, -⟩
  simp at h

/-- What the last act means for a registration. -/
theorem stands_concat_iff {acts : List (Act α)} {a : Act α} {n : Nat} {x : α} :
    Stands (acts ++ [a]) n x ↔
      (Stands acts n x ∧ a ≠ .clear ∧ a ≠ .cancel n) ∨ (a = .add x ∧ additions acts = n) := by
  constructor
  · rintro ⟨before, since, hacts, hn, hclear, hcancel⟩
    rcases List.eq_nil_or_concat since with rfl | ⟨since, last, rfl⟩
    · obtain ⟨rfl, h⟩ := List.append_inj' hacts rfl
      exact .inr ⟨by simpa using h, hn⟩
    · rw [List.concat_eq_append] at hacts hclear hcancel
      rw [← List.cons_append, ← List.append_assoc] at hacts
      obtain ⟨rfl, h⟩ := List.append_inj' hacts rfl
      obtain rfl : a = last := by simpa using h
      simp only [List.mem_append, List.mem_singleton, not_or] at hclear hcancel
      have hstands : Stands (before ++ .add x :: since) n x :=
        ⟨before, since, rfl, hn, hclear.1, hcancel.1⟩
      exact .inl ⟨hstands, Ne.symm hclear.2, Ne.symm hcancel.2⟩
  · rintro (⟨⟨before, since, rfl, hn, hclear, hcancel⟩, hne, hne'⟩ | ⟨rfl, hn⟩)
    · refine ⟨before, since ++ [a], by simp, hn, ?_, ?_⟩
      · simp [hclear, Ne.symm hne]
      · simp [hcancel, Ne.symm hne']
    · exact ⟨acts, [], rfl, hn, List.not_mem_nil, List.not_mem_nil⟩

/-! ### Handles -/

/-- What the numbers of registrations have to do with a history. -/
structure IsCounted (acts : List (Act α)) (r : Registry α) : Prop where
  /-- The next number is how many registrations there were. -/
  nextId_eq : r.listeners.nextId = additions acts
  /-- The numbers were given out in order. -/
  handles_eq : r.handles = List.range (additions acts)
  /-- No others are in the list. -/
  registered_lt : ∀ p ∈ r.listeners.registered, p.1 < additions acts

/-- One more registration counts. -/
theorem additions_concat (acts : List (Act α)) (a : Act α) :
    additions (acts ++ [a]) = additions acts + if a.isAddition then 1 else 0 := by
  simp [additions, List.countP_append, List.countP_singleton]

/-- Cancelling by a handle removes the registration with its number, if it is there, and no
other. -/
theorem IsCounted.registered_cancel {acts : List (Act α)} {r : Registry α} (h : IsCounted acts r)
    (n : Nat) : (r.act (.cancel n)).listeners.registered =
      r.listeners.registered.filter fun p => p.1 ≠ n := by
  show (r.handles[n]?.elim r.listeners r.listeners.cancel).registered = _
  rw [h.handles_eq]
  by_cases hn : n < additions acts
  · rw [List.getElem?_range hn]
    rfl
  · -- the handle was not given out, so nobody has this number
    have hkeep : ∀ p ∈ r.listeners.registered, decide (p.1 ≠ n) = true := fun p hp =>
      decide_eq_true fun heq => hn (heq ▸ h.registered_lt p hp)
    rw [List.getElem?_eq_none (by simpa using hn), List.filter_eq_self.mpr hkeep]
    rfl

/-- Every act keeps registrations numbered by their count. -/
theorem IsCounted.act {acts : List (Act α)} {r : Registry α} (h : IsCounted acts r) (a : Act α) :
    IsCounted (acts ++ [a]) (r.act a) := by
  -- only a registration counts; what is cancelled or cleared keeps its number
  cases a with
  | add x =>
    have hcount : additions (acts ++ [.add x]) = additions acts + 1 := additions_concat acts _
    refine ⟨?_, ?_, fun p hp => ?_⟩
    · rw [hcount, ← h.nextId_eq]
      rfl
    · show r.handles ++ [r.listeners.nextId] = _
      rw [hcount, h.handles_eq, h.nextId_eq, List.range_succ]
    · rw [hcount]
      rcases List.mem_append.mp hp with hp | hp
      · exact Nat.lt_succ_of_lt (h.registered_lt p hp)
      · rw [List.mem_singleton.mp hp, ← h.nextId_eq]
        exact Nat.lt_succ_self _
  | cancel n =>
    have hcount : additions (acts ++ [.cancel n]) = additions acts := additions_concat acts _
    refine ⟨?_, ?_, fun p hp => ?_⟩
    · rw [hcount, ← h.nextId_eq]
      show (r.handles[n]?.elim r.listeners r.listeners.cancel).nextId = _
      cases r.handles[n]? <;> rfl
    · rw [hcount]
      exact h.handles_eq
    · rw [h.registered_cancel] at hp
      rw [hcount]
      exact h.registered_lt p (List.mem_filter.mp hp).1
  | clear =>
    have hcount : additions (acts ++ [.clear]) = additions acts := additions_concat acts _
    refine ⟨?_, ?_, fun p hp => absurd hp List.not_mem_nil⟩
    · rw [hcount]
      exact h.nextId_eq
    · rw [hcount]
      exact h.handles_eq

/-- After every history registrations are numbered by their count. -/
theorem isCounted_after (acts : List (Act α)) : IsCounted acts (after acts) := by
  induction acts using List.reverseRecOn with
  | nil => exact ⟨rfl, rfl, fun p hp => absurd hp List.not_mem_nil⟩
  | append_singleton acts a ih =>
    rw [Registry.after_concat]
    exact ih.act a

/-! ### Who is registered -/

/-- The registrations that stand are those in the list. -/
theorem registered_iff (acts : List (Act α)) (n : Nat) (x : α) :
    (n, x) ∈ (after acts).listeners.registered ↔ Stands acts n x := by
  induction acts using List.reverseRecOn with
  | nil => exact iff_of_false List.not_mem_nil (not_stands_nil n x)
  | append_singleton acts a ih =>
    have hcounted := isCounted_after acts
    rw [stands_concat_iff, ← ih, Registry.after_concat]
    cases a with
    | add y =>
      have hnew : (n, x) = (additions acts, y) ↔ Act.add y = .add x ∧ additions acts = n := by
        rw [Prod.mk.injEq, Act.add.injEq, eq_comm, and_comm, eq_comm (a := x)]
      show (n, x) ∈ (after acts).listeners.registered ++ [((after acts).listeners.nextId, y)] ↔ _
      rw [List.mem_append, List.mem_singleton, hcounted.nextId_eq, hnew]
      simp
    | cancel m =>
      have hother : (Act.cancel m : Act α) ≠ .cancel n ↔ n ≠ m := by
        rw [Ne, Act.cancel.injEq, eq_comm]
      rw [hcounted.registered_cancel, List.mem_filter, hother]
      simp
    | clear => exact iff_of_false List.not_mem_nil (by simp)

/-- A handle from before a clearing cancels nobody who registered after it. -/
example : (after [.add 1, .clear, .add 2, .cancel 0]).listeners.registered = [(1, 2)] := by decide

/-- They are in the order in which they were made, each of them once. -/
theorem pairwise_registered (acts : List (Act α)) :
    (after acts).listeners.registered.Pairwise fun p q => p.1 < q.1 := by
  induction acts using List.reverseRecOn with
  | nil => exact List.Pairwise.nil
  | append_singleton acts a ih =>
    have hcounted := isCounted_after acts
    rw [Registry.after_concat]
    cases a with
    | add y =>
      refine List.pairwise_append.mpr ⟨ih, List.pairwise_singleton _ _, fun p hp q hq => ?_⟩
      rw [List.mem_singleton.mp hq, hcounted.nextId_eq]
      exact hcounted.registered_lt p hp
    | cancel m =>
      rw [hcounted.registered_cancel]
      exact ih.filter _
    | clear => exact List.Pairwise.nil

end FeatureFlags.Listeners

namespace FeatureFlags

/-- A listener that fails or not as it is told. -/
def Listener.failing (fails : Listener → Bool) (l : Listener) : Listener :=
  { l with fails := fails l }

/-- The same call to a listener that fails or not as it is told. -/
def Call.failing (fails : Listener → Bool) (c : Call) : Call :=
  { c with listener := c.listener.failing fails }

namespace Journal

open Listeners
open Listeners.Registry (after)

/-! ### Rounds of calls -/

/-- The failure of a listener. -/
inductive Failure where
  /-- The call did not come to its end. -/
  | broken
deriving DecidableEq, Repr

/-- What is written into the journal while listeners are called, any of whom may fail. -/
abbrev Calling := ExceptT Failure (StateM Journal)

/-- Calls a listener. -/
def invoke (c : Call) : Calling Unit := do
  modify fun j => { j with calls := j.calls ++ [c] }
  if c.listener.fails then throw .broken

/-- Calls a listener and logs its failure. -/
def invokeGuarded (c : Call) : Calling Unit :=
  tryCatch (invoke c) fun _ => modify fun j => j.logErrors 1

/-- Calls everybody who is registered, one after the other. -/
def dispatch (a : Audience) (l : Listeners Listener) (notice : Notice) : Calling Unit :=
  (round a l notice).forM invokeGuarded

/-- A guarded call comes to its end, and its failure is logged. -/
theorem run_invokeGuarded (c : Call) (j : Journal) :
    (invokeGuarded c).run.run j = (.ok (), j.call c) := by
  unfold invokeGuarded invoke call
  cases h : c.listener.fails <;> rfl

/-- A round comes to its end, whoever fails. -/
theorem run_dispatch (a : Audience) (l : Listeners Listener) (notice : Notice) (j : Journal) :
    (dispatch a l notice).run.run j = (.ok (), j.callAll a l notice) := by
  unfold dispatch callAll round
  induction l.registered generalizing j with
  | nil => rfl
  | cons x xs ih =>
    have hcall := run_invokeGuarded ⟨a, x.1, x.2, notice⟩ j
    show (invokeGuarded ⟨a, x.1, x.2, notice⟩ >>= fun _ =>
      (xs.map fun x => (⟨a, x.1, x.2, notice⟩ : Call)).forM invokeGuarded).run.run j = _
    rw [ExceptT.run_bind, StateT.run_bind, hcall]
    exact ih _

/-- The failures in a round are logged. -/
theorem errors_callAll (j : Journal) (a : Audience) (l : Listeners Listener) (notice : Notice) :
    (j.callAll a l notice).errors =
      j.errors + (round a l notice).countP fun c => c.listener.fails := by
  unfold callAll round
  induction l.registered generalizing j with
  | nil => rfl
  | cons x xs ih =>
    rw [List.foldl_cons, ih, List.map_cons, List.countP_cons, call]
    simp only
    split <;> omega

/-- A call is in a round if it tells the notice to somebody registered. -/
theorem mem_round_iff {a : Audience} {l : Listeners Listener} {notice : Notice} {c : Call} :
    c ∈ round a l notice ↔
      c.audience = a ∧ c.notice = notice ∧ (c.id, c.listener) ∈ l.registered := by
  constructor
  · intro h
    obtain ⟨x, hx, rfl⟩ := List.mem_map.mp h
    exact ⟨rfl, rfl, hx⟩
  · rintro ⟨rfl, rfl, h⟩
    exact List.mem_map.mpr ⟨_, h, rfl⟩

/-- A round of a list whose listeners fail or not as they are told. -/
theorem round_map (fails : Listener → Bool) (a : Audience) (r : Registry Listener)
    (notice : Notice) : round a (r.map (.failing fails)).listeners notice =
      (round a r.listeners notice).map (.failing fails) := by
  unfold round Registry.map
  rw [List.map_map, List.map_map]
  rfl

/-- Whatever is done with a list, a round calls those whose registrations stand, each of them once
and in the order in which they registered, and comes to its end. Cancelling removes the
registration of the handle and no other one. Who fails changes nothing about who is called, when
and with what. The numbers are given out one after the other, so below a bound on the number of
registrations they do not repeat. -/
theorem dispatch_reaches_standing (acts : List (Act Listener)) (a : Audience) (notice : Notice)
    (j : Journal) :
    ∃ calls : List Call,
      (dispatch a (after acts).listeners notice).run.run j =
          (.ok (), ⟨j.calls ++ calls, j.errors + calls.countP fun c => c.listener.fails⟩) ∧
        calls.Pairwise (fun c d => c.id < d.id) ∧
        (∀ c, c ∈ calls ↔ c.audience = a ∧ c.notice = notice ∧ Stands acts c.id c.listener) ∧
        (∀ n, (after (acts ++ [.cancel n])).listeners.registered =
          (after acts).listeners.registered.filter fun p => p.1 ≠ n) ∧
        (∀ fails : Listener → Bool,
          let others := after (acts.map (.map (.failing fails)))
          ((dispatch a others.listeners notice).run.run j).2.calls =
            j.calls ++ calls.map (.failing fails)) ∧
        (after acts).listeners.nextId = additions acts := by
  have hcounted := isCounted_after acts
  refine ⟨round a (after acts).listeners notice, ?_, ?_, fun c => ?_, fun n => ?_, fun fails => ?_,
    hcounted.nextId_eq⟩
  · rw [run_dispatch, ← calls_callAll, ← errors_callAll]
  · exact (pairwise_registered acts).map _ fun p q h => h
  · rw [mem_round_iff, registered_iff]
  · rw [Registry.after_concat]
    exact hcounted.registered_cancel n
  · intro others
    rw [run_dispatch, calls_callAll, ← round_map, ← Registry.after_map]

end Journal

end FeatureFlags
