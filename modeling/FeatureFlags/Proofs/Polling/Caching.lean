import FeatureFlags.Proofs.Polling.Hanging
import FeatureFlags.Proofs.Polling.Succession

/-!
# Answers that are kept

An edge that decides by itself when to ask keeps an answer with features for the time that its
header gives, or else for as long as answers were kept before. Until then callers do not make it
ask, however many come, unless they bring another context.

Another context is asked for at once, and the answer is the one that counts from then on. It may be
kept for less time than the first would have been. So the main statement is about runs in which no
later answer expires before the first. What such runs preserve is that the edge has an expiry, and
none before that of the first answer (`KeepsUntil`). An answer that the clock cannot keep is no
exception: the edge hangs, and does not ask at all.
-/

set_option autoImplicit false

namespace FeatureFlags

/-- A time that the clock can count is reached without being cut off. -/
theorem Instant.eq_after_of_after? {t x : Instant} {d : Duration} (h : t.after? d = some x) :
    x = t.after d :=
  (Option.some.inj (Option.ite_none_right_eq_some.mp h).2).symm

/-- After some time an instant has not come yet. -/
theorem Instant.hasCome_after (t : Instant) {d : Duration} (h : d.isZero = false) :
    (t.after d).hasCome t = false := by
  have hpos : 0 < d.nanoseconds := Nat.pos_of_ne_zero (by simpa [Duration.isZero] using h)
  exact decide_eq_false (Nat.not_le.mpr (Nat.lt_add_of_pos_right hpos))

namespace Edge.Polling

variable {p : Polling} {due : Instant}

/-! ### Requests that are not due -/

/-- Nothing is sent while no request is due. -/
theorem sent_check_of_not_due (hdue : p.isBusy = false → p.isDue = false) (k : Ticket)
    (r : Option Readiness) : (p.check k r).sent = p.sent := by
  cases hb : p.isBusy with
  | true =>
    exact (congrArg Traffic.sent (traffic_check_of_busy hb k r)).trans (Traffic.sent_join ..)
  | false =>
    rw [check_of_idle hb, hdue hb]
    rfl

/-- A caller makes an edge ask only if it is idle and a request is due. -/
theorem sent_poll_of_not_due (hdue : p.isBusy = false → p.isDue = false) :
    p.poll.1.sent = p.sent :=
  sent_check_of_not_due (p := { p with shared := p.shared.promise.1 }) hdue ..

/-- As long as an answer is kept, a caller who brings no context does not make an edge ask. -/
theorem sent_poll_of_kept (ho : p.traffic.Orderly) (hpassive : p.isDelegated = false)
    (hkept : p.isStale = false) : p.poll.1.sent = p.sent := by
  refine sent_poll_of_not_due fun hb => ?_
  rw [isDue_eq_isStale hpassive, hkept, Bool.false_or]
  exact ho.headerChanged_of_idle hb

/-- Nor does one who brings the context there is. -/
theorem sent_changeContext_of_kept (hpassive : p.isDelegated = false)
    (hkept : p.isStale = false) (sha : String) :
    (p.changeContext p.header sha).1.sent = p.sent := by
  refine sent_poll_of_not_due (p := p.setContext p.header sha) fun _ => ?_
  rw [isDue_eq_isStale (p := p.setContext p.header sha) hpassive,
    show (p.setContext p.header sha).isStale = p.isStale from rfl, hkept]
  simp [setContext]

/-! ### The end of a request -/

/-- Keeping answers goes on. -/
theorem isZero_keeping (h : p.interval.isZero = false) (response : Response) :
    (p.keeping response).isZero = false := by
  unfold keeping
  cases hd : response.cacheControl.bind maxAge? with
  | none => exact h
  | some d => exact isZero_of_cacheControl hd

section Answers

variable {q : Request} {rest : List Request} {response : Response}

/-- An answer with features that is not lost is kept from now on. -/
theorem expiry_heed_of_delivered (hd : (delivered? response).isSome = true)
    (hzero : (p.keeping response).isZero = false) (hlost : p.isLost response = false) :
    (p.heed response).expiry = some (p.shared.now.after (p.keeping response)) := by
  have hafter : (p.shared.now.after? (p.keeping response)).isSome = true := by
    simpa [isLost, hd, canKeep, hzero] using hlost
  obtain ⟨x, hx⟩ := Option.isSome_iff_exists.mp hafter
  rw [← Instant.eq_after_of_after? hx]
  simp [heed, hd, hzero, hx]

/-- An answer without features leaves the expiry there is. -/
theorem hasExpired_heed (hzero : (p.keeping response).isZero = false)
    (hlost : p.isLost response = false)
    (h : (delivered? response).isSome = true ∨ p.hasExpired = false) :
    (p.heed response).hasExpired = false := by
  cases hd : (delivered? response).isSome with
  | true =>
    unfold hasExpired
    rw [expiry_heed_of_delivered hd hzero hlost]
    exact p.shared.now.hasCome_after hzero
  | false =>
    have hexpiry : (p.heed response).expiry = p.expiry := by simp [heed, hd]
    unfold hasExpired
    rw [hexpiry]
    exact h.resolve_left (Bool.not_eq_true _ ▸ hd)

/-- No request follows the one that is answered while the answer is kept, or the one before, unless
the context has changed. -/
theorem sent_respond_of_kept (hpassive : p.isDelegated = false) (hi : p.inFlight = q :: rest)
    (hh : p.headerChanged = false) (hzero : (p.keeping response).isZero = false)
    (h : (delivered? response).isSome = true ∨ p.hasExpired = false) :
    (p.step (.respond response)).sent = p.sent := by
  cases hlost : p.isLost response with
  | true =>
    exact congrArg Traffic.sent (traffic_of_lost hi ((loses_respond hi).trans hlost))
  | false =>
    have hexpired : (({ p with inFlight := rest } : Polling).heed response).hasExpired = false :=
      hasExpired_heed (p := { p with inFlight := rest }) hzero hlost h
    have hdue : (({ p with inFlight := rest } : Polling).heed response).isDue = false := by
      rw [isDue_eq_isStale (p := ({ p with inFlight := rest } : Polling).heed response) hpassive,
        isStale, hexpired]
      exact Bool.or_eq_false_iff.mpr ⟨Bool.or_eq_false_iff.mpr ⟨hzero, rfl⟩, hh⟩
    rw [step_respond_of_kept hi hlost, sent_finish_of_not_due hdue]
    rfl

/-- Whatever ends a request, no other one follows it while an answer is kept, unless the context has
changed. -/
theorem sent_answer_of_kept {e : Event} (he : e.IsAnswer) (hpassive : p.isDelegated = false)
    (hkept : p.isStale = false) (hh : p.headerChanged = false) : (p.step e).sent = p.sent := by
  cases hi : p.inFlight with
  | nil => rw [step_of_isAnswer he hi]
  | cons q rest =>
    cases e with
    | respond response =>
      obtain ⟨hinterval, hexpired⟩ := Bool.or_eq_false_iff.mp hkept
      exact sent_respond_of_kept hpassive hi hh (isZero_keeping hinterval response)
        (Or.inr hexpired)
    | breakOff =>
      rw [step_breakOff hi, sent_finish_of_not_due]
      rw [isDue_eq_isStale (by exact hpassive)]
      exact Bool.or_eq_false_iff.mpr ⟨hkept, hh⟩
    | _ => exact he.elim

end Answers

/-! ### Runs after an answer that is kept -/

/-- Whether answers are kept, and the last one at least until some time. -/
structure Holdings.KeepsUntil (h : Holdings) (due : Instant) : Prop where
  /-- Nobody else decides when to ask. -/
  isDelegated : h.isDelegated = false
  /-- Answers are kept for some time. -/
  interval : h.interval.isZero = false
  /-- The last answer does not expire sooner. -/
  expiry : ∃ x, h.expiry = some x ∧ due.nanoseconds ≤ x.nanoseconds

/-- Whether an event is an answer with features that is to be kept, but not until some time. -/
def shortens (p : Polling) (due : Instant) : Event → Bool
  | .respond response =>
    !p.inFlight.isEmpty && (delivered? response).isSome &&
      decide ((p.shared.now.after (p.keeping response)).nanoseconds < due.nanoseconds)
  | _ => false

/-- Whether no answer in a run expires before some time. -/
def neverShortens (p : Polling) (due : Instant) : List Event → Bool
  | [] => true
  | e :: es => !p.shortens due e && (p.step e).neverShortens due es

/-- Before its time is over an answer that is kept is not stale. -/
theorem isStale_of_keepsUntil (h : p.holdings.KeepsUntil due)
    (hnow : p.shared.now.nanoseconds < due.nanoseconds) : p.isStale = false := by
  obtain ⟨x, hx, hdue⟩ := h.expiry
  have hexpired : p.hasExpired = false := by
    unfold hasExpired
    rw [show p.expiry = some x from hx]
    exact decide_eq_false (Nat.not_le.mpr (Nat.lt_of_lt_of_le hnow hdue))
  exact Bool.or_eq_false_iff.mpr ⟨h.interval, hexpired⟩

/-- An answer keeps the time of the one before, unless it brings features that are kept for less. -/
theorem keepsUntil_heed {response : Response} (h : p.holdings.KeepsUntil due)
    (hkeep : (delivered? response).isSome = true →
      due.nanoseconds ≤ (p.shared.now.after (p.keeping response)).nanoseconds) :
    (p.heed response).holdings.KeepsUntil due where
  isDelegated := h.isDelegated
  interval := isZero_keeping h.interval response
  expiry := by
    simp only [holdings, heed]
    split
    · next hd =>
      rw [Bool.and_eq_true] at hd
      cases hafter : p.shared.now.after? (p.keeping response) with
      | none => exact h.expiry
      | some x => exact ⟨x, rfl, Instant.eq_after_of_after? hafter ▸ hkeep hd.1⟩
    · exact h.expiry

/-- Only an answer can bring the expiry forward. -/
theorem keepsUntil_step {e : Event} (h : p.holdings.KeepsUntil due)
    (he : p.shortens due e = false) : (p.step e).holdings.KeepsUntil due := by
  rw [holdings_step]
  cases e with
  | respond response =>
    simp only [heldAfter]
    split
    · exact h
    · next hi => exact keepsUntil_heed h fun hd => by simpa [shortens, hi, hd] using he
  | breakOff =>
    simp only [heldAfter]
    split
    · exact h
    · exact ⟨h.isDelegated, h.interval, h.expiry⟩
  | _ => exact ⟨h.isDelegated, h.interval, h.expiry⟩

/-- A run without an answer that expires earlier keeps the time. -/
theorem keepsUntil_run {events : List Event} (h : p.holdings.KeepsUntil due)
    (hkeep : p.neverShortens due events = true) : (p.run events).holdings.KeepsUntil due := by
  induction events generalizing p with
  | nil => exact h
  | cons e es ih =>
    obtain ⟨hstep, hrest⟩ := Bool.and_eq_true_iff.mp hkeep
    exact ih (keepsUntil_step h (Bool.not_eq_true' _ ▸ hstep)) hrest

/-- An answer with features that is not lost is kept until it expires. -/
theorem keepsUntil_respond {response : Response} (hpassive : p.isDelegated = false)
    (hi : p.inFlight ≠ []) (hd : (delivered? response).isSome = true)
    (hzero : (p.keeping response).isZero = false) (hlost : p.isLost response = false) :
    (p.step (.respond response)).holdings.KeepsUntil
      (p.shared.now.after (p.keeping response)) := by
  rw [holdings_step]
  simp only [heldAfter, if_neg hi]
  exact ⟨hpassive, hzero, _, expiry_heed_of_delivered hd hzero hlost, Nat.le_refl _⟩

/-- An answer with features for the context there is, which is to be kept for some time, is followed
by no request. If no later answer expires before, then until it expires callers who bring no other
context do not make the edge ask, and an answer is followed by a request only if the context has
changed. -/
theorem rests_until_expiry {p : Polling} (hs : p.IsFresh) (hpassive : p.isDelegated = false)
    (events : List Event) (response : Response) :
    let before := p.run events
    let after := before.step (.respond response)
    let due := before.shared.now.after (before.keeping response)
    before.inFlight ≠ [] → (delivered? response).isSome = true →
      (before.keeping response).isZero = false → before.headerChanged = false →
        after.sent = before.sent ∧ ∀ later, after.neverShortens due later = true →
          let present := after.run later
          present.shared.now.nanoseconds < due.nanoseconds →
            (Edge.poll present).1.sent = present.sent ∧
              (Edge.featureUsed present).sent = present.sent ∧
              (∀ sha, (Edge.changeContext present present.header sha).1.sent = present.sent) ∧
              ∀ e, e.IsAnswer → present.headerChanged = false →
                (present.step e).sent = present.sent := by
  intro before after due hi hd hzero hh
  obtain ⟨q, rest, hflight⟩ := List.exists_cons_of_ne_nil hi
  have hbefore : before.isDelegated = false := (isDelegated_run p events).trans hpassive
  refine ⟨sent_respond_of_kept hbefore hflight hh hzero (Or.inl hd), ?_⟩
  intro later hkeep present hnow
  -- after a lost answer the edge hangs and sends nothing at all
  cases hlost : before.isLost response with
  | true =>
    have hhung : after.traffic.IsHung := (isHung_of_lost (orderly_run hs events) hflight hlost).1
    have hsilent : ∀ e, (present.step e).sent = present.sent := by
      intro e
      rw [← run_concat, sent_run_of_hung hhung (later ++ [e]), sent_run_of_hung hhung later]
    exact ⟨hsilent .poll, hsilent .poll, fun sha => hsilent (.changeContext present.header sha),
      fun e _ _ => hsilent e⟩
  | false =>
    have hkeeps := keepsUntil_run (keepsUntil_respond hbefore hi hd hzero hlost) hkeep
    have hkept := isStale_of_keepsUntil hkeeps hnow
    have horderly : present.traffic.Orderly := by
      have hrun := orderly_run hs (events ++ .respond response :: later)
      rwa [run, List.foldl_append] at hrun
    have hpoll := sent_poll_of_kept horderly hkeeps.isDelegated hkept
    exact ⟨hpoll, hpoll, sent_changeContext_of_kept hkeeps.isDelegated hkept,
      fun e he => sent_answer_of_kept he hkeeps.isDelegated hkept⟩

/-! ### Samples -/

/-- The context changes, and the answer for it is kept for some seconds. -/
def sampleUpdate (seconds : String) : List Event :=
  [sampleChange "a", .respond (sampleKept seconds)]

/-- An answer for another context that is kept for longer changes nothing about the first. -/
theorem rests_after_longer_answer :
    let after := (sampleEdge.run [.poll]).step (.respond (sampleKept "100"))
    let present := after.run (sampleUpdate "200" ++ [.setClock ⟨99999999999⟩])
    after.sent.length = 1 ∧ present.sent.length = 2 ∧
      (Edge.poll present).1.sent = present.sent := by
  intro after present
  obtain ⟨hsent, hrests⟩ := rests_until_expiry isFresh_sampleEdge rfl [.poll] (sampleKept "100")
    (by decide) (by decide) (by decide +kernel) (by decide)
  obtain ⟨hpoll, -⟩ := hrests (sampleUpdate "200" ++ [.setClock ⟨99999999999⟩])
    (by decide +kernel) (by decide +kernel)
  refine ⟨congrArg List.length hsent, by decide +kernel, ?_⟩
  simpa only [present, after] using hpoll

/-- If it is kept for less, the edge asks before the first answer would have expired. -/
theorem shorter_answer_asks_sooner :
    ¬ ∀ (p : Polling) (events : List Event) (response : Response), p.IsFresh →
      p.isDelegated = false →
        let before := p.run events
        let due := before.shared.now.after (before.keeping response)
        before.inFlight ≠ [] → (delivered? response).isSome = true →
          (before.keeping response).isZero = false → before.headerChanged = false →
            ∀ later,
              let present := (before.step (.respond response)).run later
              present.shared.now.nanoseconds < due.nanoseconds →
                (Edge.poll present).1.sent = present.sent := by
  intro h
  have hsame := h sampleEdge [.poll] (sampleKept "100") isFresh_sampleEdge rfl (by decide)
    (by decide) (by decide +kernel) (by decide)
    (sampleUpdate "5" ++ [.setClock ⟨6000000000⟩]) (by decide +kernel)
  exact absurd (congrArg List.length hsame) (by decide +kernel)

end Edge.Polling

end FeatureFlags
