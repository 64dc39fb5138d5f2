import FeatureFlags.Proofs.Governor.Waiters
import FeatureFlags.Proofs.Polling.Conduct

/-!
# Callers of a governor that is closed

Closing a governor ends its tasks, among them one that has the flag and was to clear it. Nobody
clears the flag then, unless something was queued at that moment. A change of the context that
comes later is queued, and left alone because the flag is set. If nobody takes it from the queue
any more, those who wait for it wait forever, and apart from them nobody does.
-/

set_option autoImplicit false

namespace FeatureFlags.Edge.Governed

variable {σ : Type} [Edge σ] [Eventful σ]

/-! ### Being forsaken -/

/-- Whether with a move somebody takes what is queued. -/
def collects (g : Governed σ) (m : Move σ) : Bool :=
  match g.acting? m with
  | some (.take _) | some .dismiss => true
  | _ => false

/-- Whether nobody takes what is queued. -/
def neverCollects (g : Governed σ) : List (Move σ) → Bool
  | [] => true
  | m :: moves => !g.collects m && (g.move m).neverCollects moves

/-- Whether what is queued on a closed governor is left alone, and nobody takes it later. -/
def forsakes (g : Governed σ) : List (Move σ) → Bool
  | [] => false
  | m :: moves => g.turnsAway m && (g.move m).neverCollects moves || (g.move m).forsakes moves

/-- A run with one more move collects nothing if neither the run nor the move does. -/
theorem neverCollects_concat (g : Governed σ) (moves : List (Move σ)) (m : Move σ) :
    g.neverCollects (moves ++ [m]) = (g.neverCollects moves && !(g.run moves).collects m) := by
  induction moves generalizing g with
  | nil => simp [neverCollects]
  | cons n moves ih => simp [neverCollects, ih, run, Bool.and_assoc]

/-- One more move forsakes a caller by turning away, and makes up for it by collecting. -/
theorem forsakes_concat (g : Governed σ) (moves : List (Move σ)) (m : Move σ) :
    g.forsakes (moves ++ [m]) =
      (g.forsakes moves && !(g.run moves).collects m || (g.run moves).turnsAway m) := by
  induction moves generalizing g with
  | nil => simp [forsakes, neverCollects]
  | cons n moves ih =>
    simp only [List.cons_append, forsakes, neverCollects_concat, ih, run, List.foldl_cons]
    rw [Bool.and_or_distrib_right, Bool.and_assoc, Bool.or_assoc]

/-- What is queued stays queued until somebody takes it. -/
theorem isSome_queued_move {g : Governed σ} {m : Move σ} (hq : g.queued.isSome = true)
    (hm : g.collects m = false) : (g.move m).queued.isSome = true := by
  have hmoves := moves_move g m
  generalize g.move m = g' at hmoves
  cases hmoves with
  | idle | start | inner => exact hq
  | advance h =>
    obtain ⟨hplace, -, hturns, l, -, rfl⟩ := h
    simp only [collects, acting?, hplace] at hm
    cases hturns with
    | enqueue => rfl
    | take | dismiss => exact absurd hm.symm Bool.false_ne_true
    | _ => exact hq

/-- Whoever takes from the queue leaves nothing there. -/
theorem queued_move_of_collects {g : Governed σ} {m : Move σ} (hm : g.collects m = true) :
    (g.move m).queued = none := by
  cases m with
  | advance i =>
    unfold collects acting? at hm
    split at hm
    · next hplace =>
      cases hq : g.queued <;> simp [move, stepAt, hplace, advance, hq]
    · next hplace =>
      cases hq : g.queued <;> simp [move, stepAt, hplace, advance, hq]
    · exact absurd hm Bool.false_ne_true
  | _ => exact absurd hm Bool.false_ne_true

omit [Edge σ] in
/-- Whoever is turned away takes nothing. -/
theorem collects_of_turnsAway {g : Governed σ} {m : Move σ} (h : g.turnsAway m = true) :
    g.queued.isSome = true ∧ g.collects m = false := by
  unfold turnsAway at h
  unfold collects
  split at h
  · next hacting =>
    simp only [Bool.and_eq_true] at h
    exact ⟨h.2, by rw [hacting]⟩
  · exact nomatch h

/-- What was left alone is still queued. -/
theorem isSome_queued_of_forsakes {e : σ} {moves : List (Move σ)}
    (h : (new e).forsakes moves = true) : ((new e).run moves).queued.isSome = true := by
  induction moves using List.reverseRecOn with
  | nil => exact nomatch h
  | append_singleton moves m ih =>
    rw [run_concat]
    rw [forsakes_concat, Bool.or_eq_true, Bool.and_eq_true, Bool.not_eq_true'] at h
    rcases h with ⟨hforsakes, hstays⟩ | haway
    · exact isSome_queued_move (ih hforsakes) hstays
    · obtain ⟨hq, hstays⟩ := collects_of_turnsAway haway
      exact isSome_queued_move hq hstays

/-- What is queued is either left alone, or somebody will look at it. -/
theorem watched_or_forsakes (e : σ) (moves : List (Move σ)) :
    ((new e).run moves).Watched ∨ (new e).forsakes moves = true := by
  induction moves using List.reverseRecOn with
  | nil => exact Or.inl fun hq => nomatch hq
  | append_singleton moves m ih =>
    rw [run_concat, forsakes_concat, Bool.or_eq_true, Bool.and_eq_true, Bool.not_eq_true']
    rcases ih with hwatched | hforsakes
    · exact (hwatched.move (guarded_run e moves) m).imp_right Or.inr
    · cases hm : ((new e).run moves).collects m with
      | false => exact Or.inr (Or.inl ⟨hforsakes, rfl⟩)
      | true =>
        refine Or.inl fun hq => ?_
        rw [queued_move_of_collects hm] at hq
        exact nomatch hq

/-! ### Answers -/

/-- Whatever is queued has somebody who waits for it. -/
theorem queueWaiters_ne_nil (e : σ) (moves : List (Move σ)) :
    ((new e).run moves).queued.isSome = true → ((new e).run moves).queueWaiters ≠ [] := by
  induction moves using List.reverseRecOn with
  | nil => exact fun hq => nomatch hq
  | append_singleton moves m ih =>
    rw [run_concat]
    have hmoves := moves_move ((new e).run moves) m
    generalize ((new e).run moves).move m = g' at hmoves
    cases hmoves with
    | idle | start | inner => exact ih
    | advance h =>
      obtain ⟨-, -, hturns, l, -, rfl⟩ := h
      cases hturns with
      | enqueue => exact fun _ => List.append_ne_nil_of_right_ne_nil _ (List.cons_ne_nil _ _)
      | take | dismiss => exact fun hq => nomatch hq
      | _ => exact ih

variable [Accountable σ]

/-- When all is at rest and no request is running, all callers were answered, unless a change of
the context was left alone on a closed governor. -/
theorem answered_iff_not_forsakes {e : σ} (he : IsTidy e) (moves : List (Move σ)) :
    let g := (new e).run moves
    g.AtRest → (∀ answer waiters, .await answer waiters ∉ g.activities) →
      ((∀ t ∈ g.handedOut, result? g.inner t ≠ none) ↔ (new e).forsakes moves = false) := by
  intro g hrest hnone
  have hactivities : g.activities = [] := by
    refine List.eq_nil_iff_forall_not_mem.mpr fun a ha => ?_
    obtain ⟨answer, waiters, rfl, -⟩ := await_of_atRest hrest ha
    exact hnone answer waiters ha
  have hheld : g.lobby.held = g.queueWaiters := by
    simp [lobby, lobbyOf, hactivities]
  have hkept : g.lobby.Kept := kept_run he moves
  constructor
  · intro hanswered
    by_contra hforsakes
    have hq := isSome_queued_of_forsakes (by simpa using hforsakes)
    obtain ⟨t, ht⟩ := List.exists_mem_of_ne_nil _ (queueWaiters_ne_nil e moves hq)
    rw [← hheld, hkept.mem_held_iff] at ht
    exact hanswered t ht.1 ht.2
  · intro hforsakes t ht hopen
    have hwaits : t ∈ g.queueWaiters := hheld ▸ (hkept.mem_held_iff t).mpr ⟨ht, hopen⟩
    have hq : g.queued.isSome = true := by
      cases hq : g.queued with
      | none => simp [queueWaiters, hq] at hwaits
      | some q => rfl
    have hwatched := (watched_or_forsakes e moves).resolve_right (by simp [hforsakes])
    obtain ⟨a, ha, -⟩ := hwatched hq
    exact absurd (hactivities ▸ ha) List.not_mem_nil

/-! ### Samples -/

/-- A request that is under way when the governor is closed, and whose task is dropped. -/
def closedWhileAsking : List (Move Polling) :=
  [.poll] ++ List.replicate 5 (.advance 0) ++ [.close] ++ List.replicate 4 (.advance 1) ++
    [.advance 0]

/-- A change of the context that comes after that. -/
def changedAfterwards : List (Move Polling) :=
  closedWhileAsking ++ [.changeContext (some "userkey=fred") "sha"] ++
    List.replicate 3 (.advance 0)

/-- Whoever waited for the request is answered. -/
theorem closed_while_asking :
    let g := (new Polling.sampleEdge).run closedWhileAsking
    g.AtRest ∧ g.handedOut = [0] ∧ ∀ t ∈ g.handedOut, result? g.inner t ≠ none := by
  intro g
  obtain ⟨hrest, hnone⟩ := atRest_of_nil (g := g) (by decide)
  have hanswered := answered_iff_not_forsakes Polling.isFresh_sampleEdge.isTidy closedWhileAsking
    hrest hnone
  exact ⟨hrest, by decide, hanswered.mpr (by decide)⟩

/-- Whoever changes the context afterwards waits forever. -/
theorem changed_afterwards_unanswered :
    ¬ ∀ (e : Polling) (moves : List (Move Polling)), IsTidy e →
      let g := (new e).run moves
      g.AtRest → (∀ answer waiters, .await answer waiters ∉ g.activities) →
        ∀ t ∈ g.handedOut, result? g.inner t ≠ none := by
  intro h
  obtain ⟨hrest, hnone⟩ :=
    atRest_of_nil (g := (new Polling.sampleEdge).run changedAfterwards) (by decide)
  exact h Polling.sampleEdge changedAfterwards Polling.isFresh_sampleEdge.isTidy hrest hnone 2
    (by decide) (by decide)

end FeatureFlags.Edge.Governed
