import FeatureFlags.Context.Basic
import FeatureFlags.Proofs.Polling.Conduct
import FeatureFlags.Proofs.Polling.Tags
import FeatureFlags.Proofs.Repository.Readiness

/-!
# Readiness after an answer

Contexts are built on a polling edge, which takes back that features can be relied on, and
requests fail. An answer with features makes the repository ready again, whatever has happened.
An answer that says that nothing has changed does not: it leaves the readiness as it was. Those
who wait are answered with the readiness there is then, unless the answer is lost.
-/

set_option autoImplicit false

namespace FeatureFlags.Edge.Polling

/-! ### Those who wait for a request -/

namespace Traffic

variable {t t' : Traffic} {e : Event}

/-- Whether somebody waits for every request. -/
def IsAttended (t : Traffic) : Prop := t.inFlight ≠ [] → t.waiting ≠ []

/-- A request that is sent for callers has them wait. -/
theorem Checked.isAttended {ks : List Ticket} (h : t.Checked ks t') (hks : ks ≠ [])
    (hi : t.inFlight = []) : t'.IsAttended := by
  cases h with
  | ask => exact fun _ => List.append_ne_nil_of_right_ne_nil _ hks
  | settle => exact fun hflight => absurd hi hflight

/-- A request that follows another one has callers wait. -/
theorem Finished.isAttended (h : t.Finished t') (hi : t.inFlight = []) : t'.IsAttended := by
  cases h with
  | alone => exact fun hflight => absurd hi hflight
  | again hfollow hc => exact hc.isAttended hfollow hi

/-- No request is left to itself. -/
theorem IsAttended.of_moves (h : t.IsAttended) (ho : t.Orderly) (hm : t.Moves e t') :
    t'.IsAttended := by
  cases hm with
  | quiet => exact h
  | join =>
    unfold IsAttended at h ⊢
    unfold join
    split
    · simpa using h
    · exact fun _ => List.append_ne_nil_of_right_ne_nil _ (List.cons_ne_nil _ _)
  | check _ hb hc =>
    exact hc.isAttended (List.cons_ne_nil _ _) ((inFlight_enter ..).trans (ho.idle hb).1)
  | lose _ hi => exact fun hflight => absurd (ho.rest_eq_nil hi) hflight
  | finish _ hi _ hf => exact hf.isAttended (ho.rest_eq_nil hi)
  | close hf => exact hf.isAttended rfl

end Traffic

/-- In every run of a fresh edge somebody waits for the request under way. -/
theorem isAttended_run {p : Polling} (hs : p.IsFresh) (events : List Event) :
    (p.run events).traffic.IsAttended :=
  preserved_run (fun _ _ _ ho h hm => h.of_moves ho hm) hs
    (fun hflight => absurd hs.inFlight_eq_nil hflight) events

/-- At the end of a request those who waited for it are answered with the present readiness. -/
theorem result?_finish {p : Polling} {k : Ticket} (hk : k ∈ p.waiting)
    (hopen : p.shared.futures.result? k = none) :
    p.finish.shared.futures.result? k = some p.shared.readiness := by
  have hrelease : p.release.shared.futures.result? k = some p.shared.readiness := by
    refine (Futures.result?_answerAll ..).trans ?_
    rw [hopen, Option.none_or, if_pos hk]
  rw [finish_eq_foldl]
  exact Futures.result?_of_prefix (extends_foldl_check ..) hrelease

/-- Those who wait for a request learn of the readiness there is after the answer, unless it is
lost. -/
theorem result?_respond {p : Polling} (hi : p.inFlight ≠ []) (response : Response) {k : Ticket}
    (hk : k ∈ p.waiting) (hopen : p.shared.futures.result? k = none) :
    (p.step (.respond response)).shared.futures.result? k =
      if p.isLost response then none
      else some (p.step (.respond response)).shared.readiness := by
  obtain ⟨q, rest, hflight⟩ := List.exists_cons_of_ne_nil hi
  rw [step_respond hflight, receive_eq_heed]
  have hlost : ({ p with inFlight := rest } : Polling).isLost response = p.isLost response := rfl
  rw [hlost]
  split
  · exact hopen
  · have hfinish := congrArg (fun held => Repository.readiness held.repository)
      (holdings_finish (({ p with inFlight := rest } : Polling).heed response))
    rw [show ∀ p' : Polling, p'.shared.readiness = p'.holdings.repository.readiness from
      fun _ => rfl, hfinish]
    exact result?_finish hk hopen

/-! ### Builds -/

/-- What can happen to an edge on which contexts are built. -/
inductive Act where
  /-- Something happens to the edge. -/
  | event (e : Event)
  /-- A context is built, whatever was built before. -/
  | build (c : Context)

/-- What happens to an edge on which contexts are built. -/
def act (p : Polling) : Act → Polling
  | .event e => p.step e
  | .build c => (c.build p).2.1

/-- What a run makes of an edge on which contexts are built. -/
def history (p : Polling) (acts : List Act) : Polling := acts.foldl act p

/-- For its edge a build is that somebody may take back that features can be relied on, and that a
caller comes. -/
theorem exists_run_of_act (p : Polling) (a : Act) : ∃ events, p.act a = p.run events := by
  cases a with
  | event e => exact ⟨[e], rfl⟩
  | build c =>
    simp only [act, Context.build, Context.buildOnServer]
    split
    · split
      · exact ⟨[.changeContext c.attributes.header (Context.digest c.attributes.header)], rfl⟩
      · exact ⟨[.modifyRepository Repository.notReady,
          .changeContext c.attributes.header (Context.digest c.attributes.header)], rfl⟩
    · exact ⟨[.changeContext none Context.noDigest], rfl⟩

/-- For its edge a history with builds is a run. -/
theorem exists_run_of_history (p : Polling) (acts : List Act) :
    ∃ events, p.history acts = p.run events := by
  induction acts using List.reverseRecOn with
  | nil => exact ⟨[], rfl⟩
  | append_singleton acts a ih =>
    obtain ⟨events, hevents⟩ := ih
    obtain ⟨more, hmore⟩ := exists_run_of_act (p.history acts) a
    refine ⟨events ++ more, ?_⟩
    have hstep : p.history (acts ++ [a]) = (p.history acts).act a := by simp [history]
    rw [hstep, hmore, hevents]
    simp [run]

/-! ### Answers -/

/-- What the readiness is after an answer with features, or one that nothing has changed. -/
theorem readiness_learn {response : Response} {r : Repository} (hc : r.isClosed = false)
    (hr : (delivered? response).isSome = true ∨ response.status = confirmStatus) :
    (learn response r).readiness =
      if (delivered? response).isSome then .ready else r.readiness := by
  cases hd : delivered? response with
  | some es =>
    simp only [learn, hd, Option.isSome_some, if_true]
    exact Repository.readiness_updateFeatures (by exact hc) ..
  | none =>
    have hstatus := hr.resolve_left (by simp [hd])
    have hsuccess : isSuccess response.status = false := by rw [hstatus]; decide
    have hrejection : isRejection response.status = false := by rw [hstatus]; decide
    simp [learn, hd, hsuccess, hrejection]

/-- An answer with features makes them reliable. A confirmation leaves the readiness as it is. -/
theorem readiness_respond {p : Polling} {response : Response} (hi : p.inFlight ≠ [])
    (hc : p.shared.repository.isClosed = false)
    (hr : (delivered? response).isSome = true ∨ response.status = confirmStatus) :
    (p.step (.respond response)).shared.readiness =
      if (delivered? response).isSome then .ready else p.shared.readiness := by
  have hheld := congrArg Holdings.repository (holdings_step p (.respond response))
  simp only [heldAfter, if_neg hi] at hheld
  exact (congrArg Repository.readiness hheld).trans (readiness_learn hc hr)

/-- A request is answered with features, or with the news that nothing has changed. Then an open
repository is ready and those who waited learn so exactly if the clock can keep the features, or
the repository was ready before. -/
theorem ready_after_answer_iff {p : Polling} (hs : p.IsFresh) (acts : List Act)
    (response : Response) :
    let before := p.history acts
    let after := before.step (.respond response)
    before.inFlight ≠ [] → before.shared.repository.isClosed = false →
    (delivered? response).isSome = true ∨ response.status = confirmStatus →
      ((after.shared.readiness = .ready ∧
          ∀ k ∈ before.waiting, after.shared.futures.result? k = some .ready) ↔
        if (delivered? response).isSome then before.canKeep response = true
        else before.shared.readiness = .ready) := by
  intro before after hi hc hr
  obtain ⟨events, hevents⟩ : ∃ events, before = p.run events := exists_run_of_history p acts
  have horderly : before.traffic.Orderly := hevents ▸ orderly_run hs events
  have hattended : before.traffic.IsAttended := hevents ▸ isAttended_run hs events
  have hopen : ∀ k ∈ before.waiting, before.shared.futures.result? k = none := fun k hk =>
    (result?_eq_none_iff before k).mpr
      (horderly.pending k (List.mem_append_left _ hk)).2
  have hready : after.shared.readiness =
      if (delivered? response).isSome then .ready else before.shared.readiness :=
    readiness_respond hi hc hr
  have hresult : ∀ k ∈ before.waiting, after.shared.futures.result? k =
      if before.isLost response then none else some after.shared.readiness := fun k hk =>
    result?_respond hi response hk (hopen k hk)
  -- somebody waits for the request, who hears nothing from an answer that is lost
  obtain ⟨k, hk⟩ := List.exists_mem_of_ne_nil _ (hattended hi)
  cases hd : (delivered? response).isSome with
  | true =>
    rw [hd, if_pos rfl] at hready
    have hlost : before.isLost response = !before.canKeep response := by simp [isLost, hd]
    simp only [hready, hlost, true_and, if_true] at hresult ⊢
    constructor
    · intro hall
      by_contra hkeep
      have hnone := (hresult k hk).symm.trans (hall k hk)
      simp [hkeep] at hnone
    · intro hkeep k hk
      simpa [hkeep] using hresult k hk
  | false =>
    rw [hd, if_neg Bool.false_ne_true] at hready
    have hlost : before.isLost response = false := by simp [isLost, hd]
    rw [if_neg Bool.false_ne_true, hready]
    refine ⟨And.left, fun hr => ⟨hr, fun k hk => ?_⟩⟩
    rw [hresult k hk, hlost, if_neg Bool.false_ne_true, hready, hr]

/-! ### Samples -/

/-- A server answers a poll with features and a tag. Then a context is built for a user, which
takes back that features can be relied on and sends the tag along. -/
def sampleHistory : List Act :=
  [.event .poll, .event (.respond ⟨200, none, some "v1", [0x5B, 0x5D]⟩),
    .build ⟨.set .empty Attributes.userKey "fred", true, none⟩]

/-- An answer with features makes them reliable for the user. -/
theorem ready_after_features :
    let before := sampleEdge.history sampleHistory
    let response : Response := ⟨200, none, none, [0x5B, 0x5D]⟩
    let after := before.step (.respond response)
    before.shared.readiness = .notReady ∧ before.waiting = [1] ∧
      before.canKeep response = true ∧ after.shared.readiness = .ready ∧
      ∀ k ∈ before.waiting, after.shared.futures.result? k = some .ready := by
  intro before response after
  have hkeep : before.canKeep response = true := by decide
  have hready := ready_after_answer_iff isFresh_sampleEdge sampleHistory response (by decide)
    (by decide) (Or.inl (by decide))
  exact ⟨by decide, by decide, hkeep, hready.mpr hkeep⟩

/-- After the news that nothing has changed features count as unreliable still. -/
theorem confirmed_not_ready :
    ¬ ∀ (p : Polling) (acts : List Act) (response : Response), p.IsFresh →
      let before := p.history acts
      let after := before.step (.respond response)
      before.inFlight ≠ [] → before.shared.repository.isClosed = false →
      before.shared.repository.hasInitialState = true →
      (delivered? response).isSome = true ∨ response.status = confirmStatus →
        after.shared.readiness = .ready ∧
          ∀ k ∈ before.waiting, after.shared.futures.result? k = some .ready := by
  intro h
  have hready := (h sampleEdge sampleHistory ⟨confirmStatus, none, none, []⟩ isFresh_sampleEdge
    (by decide) (by decide) (by decide) (Or.inr rfl)).1
  exact absurd hready (by decide)

end FeatureFlags.Edge.Polling
