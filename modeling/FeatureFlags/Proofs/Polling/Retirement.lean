import FeatureFlags.Proofs.Polling.Completion

/-!
# The end of all requests

A server can dismiss a client: it refuses to answer, or it asks to stop after an answer. A client
can close its edge. Afterwards nothing is to be asked any more, and whoever still comes is to be
answered at once (`IsRetired`). This holds of an edge exactly if it is not allowed to ask and not
busy (`isRetired_iff`), which no event changes.

The main statement is that an edge retires when it is dismissed, but for one case: the server
asks to stop, and with an answer that does not end the request like other answers. Either the
features in it cannot be read, so that nobody takes notice of the status, or the clock cannot keep
it, so that those who come wait for ever.
-/

set_option autoImplicit false

namespace FeatureFlags.Edge.Polling

/-- Whether an event tells an edge to ask no more: an answer with a status that says so, whatever
else there is in it, or the end of the edge. -/
def IsDismissal (p : Polling) : Event → Prop
  | .respond response =>
    p.inFlight ≠ [] ∧ (response.status = stopStatus ∨ isRejection response.status = true)
  | .close => True
  | _ => False

/-- Whether nothing is asked from now on, and every caller is answered at once. -/
def IsRetired (p : Polling) : Prop :=
  ∀ es, (p.run es).sent = p.sent ∧ ∀ e k, (p.run es).handedOut? e = some k →
    ((p.run es).step e).shared.futures.result? k ≠ none

namespace Traffic

variable {t t' : Traffic} {e : Event} {ks : List Ticket}

/-! ### Edges that may not ask -/

/-- Whether requests are not allowed, and none is under way. -/
structure IsOver (t : Traffic) : Prop where
  /-- Requests are not allowed. -/
  canRequest : t.canRequest = false
  /-- The edge is not busy. -/
  isBusy : t.isBusy = false
  /-- No request is under way. -/
  inFlight : t.inFlight = []

/-- Callers who find no request under way, and none allowed, are answered. -/
theorem Checked.eq_settle (h : t.Checked ks t') (hc : t.canRequest = false) :
    t' = t.settle ks := by
  cases h with
  | ask hc' => exact absurd (hc.symm.trans hc') Bool.false_ne_true
  | settle => rfl

/-- The last request ends without another one. -/
theorem Finished.isOver (h : t.Finished t') (hc : t.canRequest = false)
    (hi : t.inFlight = []) : t'.IsOver ∧ t'.sent = t.sent := by
  cases h with
  | alone => exact ⟨⟨hc, rfl, hi⟩, rfl⟩
  | again _ hcheck =>
    rw [hcheck.eq_settle hc]
    exact ⟨⟨hc, rfl, hi⟩, rfl⟩

/-- No event changes that requests are over, and none leaves a caller waiting. -/
theorem IsOver.of_moves (h : t.IsOver) (hm : t.Moves e t') :
    t'.IsOver ∧ t'.sent = t.sent ∧ ∀ k, t.caller? e = some k → k ∈ t'.answered := by
  cases hm with
  | quiet hcall =>
    refine ⟨h, rfl, fun k hk => ?_⟩
    rw [caller?_of_not_isCall hcall] at hk
    exact nomatch hk
  | join _ hb => exact absurd (h.isBusy.symm.trans hb) Bool.false_ne_true
  | check hcall _ hc =>
    have hcanRequest : (t.enter e).canRequest = false := by simpa using h.canRequest
    rw [hc.eq_settle hcanRequest]
    refine ⟨⟨hcanRequest, ?_, ?_⟩, sent_enter t e, fun k hk => ?_⟩
    · exact (isBusy_enter t e).trans h.isBusy
    · exact (inFlight_enter t e).trans h.inFlight
    · rw [caller?_of_isCall hcall] at hk
      exact List.mem_append_right _ (List.mem_singleton.mpr (Option.some.inj hk).symm)
  | lose _ hi | finish _ hi => exact absurd (h.inFlight.symm.trans hi) (by simp)
  | close hf =>
    obtain ⟨hover, hsent⟩ := hf.isOver rfl rfl
    exact ⟨hover, hsent, fun k hk => nomatch hk⟩

/-! ### Requests are only made when they are allowed -/

/-- Whether a request under way is allowed. -/
def IsPermitted (t : Traffic) : Prop := t.inFlight ≠ [] → t.canRequest = true

/-- Checking whether to ask sends nothing that is not allowed. -/
theorem Checked.isPermitted (h : t.Checked ks t') (hi : t.inFlight = []) : t'.IsPermitted := by
  intro hflight
  cases h with
  | ask hc => exact hc
  | settle => exact absurd hi hflight

/-- After the end of a request nothing is sent that is not allowed. -/
theorem Finished.isPermitted (h : t.Finished t') (hi : t.inFlight = []) : t'.IsPermitted := by
  cases h with
  | alone => exact fun hflight => absurd hi hflight
  | again _ hc => exact hc.isPermitted hi

/-- Every move keeps the request under way allowed. -/
theorem IsPermitted.of_moves (h : t.IsPermitted) (ho : t.Orderly) (hm : t.Moves e t') :
    t'.IsPermitted := by
  cases hm with
  | quiet => exact h
  | join =>
    unfold IsPermitted at h ⊢
    simpa using h
  | check _ hb hc => exact hc.isPermitted ((inFlight_enter t e).trans (ho.idle hb).1)
  | lose _ hi => exact fun hflight => absurd (ho.rest_eq_nil hi) hflight
  | finish _ hi _ hf => exact hf.isPermitted (ho.rest_eq_nil hi)
  | close hf => exact hf.isPermitted rfl

end Traffic

/-! ### Retirement -/

variable {p : Polling} {e : Event} {events : List Event}

/-- In every run of a fresh edge the request under way is allowed. -/
theorem isPermitted_run (hs : p.IsFresh) (events : List Event) :
    (p.run events).traffic.IsPermitted :=
  preserved_run (fun _ _ _ ho h hm => h.of_moves ho hm) hs
    (fun hflight => absurd hs.inFlight_eq_nil hflight) events

/-- What is over stays over, and nothing more is sent. -/
theorem isOver_run (h : p.traffic.IsOver) (events : List Event) :
    (p.run events).traffic.IsOver ∧ (p.run events).sent = p.sent := by
  induction events using List.reverseRecOn with
  | nil => exact ⟨h, rfl⟩
  | append_singleton es e ih =>
    obtain ⟨hover, hsent⟩ := ih
    obtain ⟨hover', hsent', -⟩ := hover.of_moves (moves_step _ e)
    rw [run_concat]
    exact ⟨hover', hsent'.trans hsent⟩

/-- An edge that is over is retired. -/
theorem isRetired_of_isOver (h : p.traffic.IsOver) : p.IsRetired := by
  intro es
  obtain ⟨hover, hsent⟩ := isOver_run h es
  refine ⟨hsent, fun e k hk => ?_⟩
  rw [handedOut?_eq_caller?] at hk
  rw [ne_eq, result?_eq_none_iff, Classical.not_not]
  exact (hover.of_moves (moves_step _ e)).2.2 k hk

/-- A busy edge lets the next caller wait. -/
theorem not_isRetired_of_isBusy (ho : p.traffic.Orderly) (hb : p.isBusy = true) :
    ¬ p.IsRetired := by
  intro hretired
  refine (hretired []).2 .poll p.traffic.nextTicket rfl ?_
  rw [result?_eq_none_iff, run_nil, show p.step .poll = p.poll.1 from rfl,
    traffic_poll_of_busy hb, Traffic.answered_join, Traffic.answered_enter]
  exact fun hmem => Nat.lt_irrefl _ (ho.answered_lt _ hmem)

/-- An edge that is allowed to ask does so for another context. -/
theorem not_isRetired_of_canRequest (hb : p.isBusy = false) (hc : p.canRequest = true) :
    ¬ p.IsRetired := by
  intro hretired
  obtain ⟨header, hheader⟩ : ∃ header, some header ≠ p.header := by
    by_cases hempty : p.header = some ""
    · exact ⟨"x", by simp [hempty]⟩
    · exact ⟨"", fun h => hempty h.symm⟩
  have hsent : (p.step (.changeContext (some header) "")).traffic.sent = p.traffic.sent :=
    (hretired [.changeContext (some header) ""]).1
  have hm := moves_step p (.changeContext (some header) "")
  generalize (p.step (.changeContext (some header) "")).traffic = t' at hm hsent
  cases hm with
  | quiet hcall => exact hcall trivial
  | join _ hb' => exact Bool.false_ne_true (hb.symm.trans hb')
  | check _ _ hcheck =>
    cases hcheck with
    | ask => simp [Traffic.ask] at hsent
    | settle hsame =>
      have hchanged : (p.traffic.enter (.changeContext (some header) "")).headerChanged = true := by
        simpa [Traffic.enter, traffic] using hheader
      exact Bool.false_ne_true ((hsame hc).symm.trans hchanged)
  | lose hanswer | finish hanswer => exact hanswer

/-- An edge is retired exactly if it is not allowed to ask and not busy. -/
theorem isRetired_iff (ho : p.traffic.Orderly) :
    p.IsRetired ↔ p.canRequest = false ∧ p.isBusy = false := by
  constructor
  · intro hretired
    have hb : p.isBusy = false := by
      cases hb : p.isBusy with
      | false => rfl
      | true => exact absurd hretired (not_isRetired_of_isBusy ho hb)
    cases hc : p.canRequest with
    | false => exact ⟨rfl, hb⟩
    | true => exact absurd hretired (not_isRetired_of_canRequest hb hc)
  · rintro ⟨hc, hb⟩
    exact isRetired_of_isOver ⟨hc, hb, (ho.idle hb).1⟩

/-! ### Dismissals -/

/-- The status that asks to stop is not a rejection. -/
theorem isRejection_stopStatus : isRejection stopStatus = false := by decide

/-- Whether an event is the end: nothing is sent, nothing may be, and the edge is not busy. -/
def IsEnd (p : Polling) (e : Event) : Prop :=
  (p.step e).sent = p.sent ∧ (p.step e).canRequest = false ∧ (p.step e).isBusy = false

/-- A final answer that is kept is the end. -/
theorem isEnd_of_final {q : Request} {rest : List Request} (he : e.IsAnswer)
    (ho : p.traffic.Orderly) (hi : p.inFlight = q :: rest) (hl : p.loses e = false)
    (hf : e.isFinal = true) : p.IsEnd e := by
  have hfinished := finished_answer he hi hl
  rw [hf, Bool.not_true, Bool.and_false, ho.rest_eq_nil hi] at hfinished
  obtain ⟨hover, hsent⟩ := hfinished.isOver rfl rfl
  exact ⟨hsent, hover.canRequest, hover.isBusy⟩

/-- A lost answer leaves an edge busy. -/
theorem isBusy_of_lost {q : Request} {rest : List Request} (ho : p.traffic.Orderly)
    (hi : p.inFlight = q :: rest) (hl : p.loses e = true) : (p.step e).isBusy = true := by
  have hinFlight : p.traffic.inFlight ≠ [] := fun hnil => nomatch hi.symm.trans hnil
  exact (congrArg Traffic.isBusy (traffic_of_lost hi hl)).trans (ho.isBusy_of_inFlight hinFlight)

section Respond

variable {q : Request} {rest : List Request} {response : Response}

/-- A rejection is the end, whatever else is in the answer. -/
theorem isEnd_of_isRejection (ho : p.traffic.Orderly) (hi : p.inFlight = q :: rest)
    (hr : isRejection response.status = true) : p.IsEnd (.respond response) := by
  have hfail : isSuccess response.status = false := by
    cases hsuccess : isSuccess response.status with
    | false => rfl
    | true => exact hr.symm.trans (isRejection_of_isSuccess hsuccess)
  have hkept : p.isLost response = false :=
    isLost_of_not_delivered (by simp [delivered?, hfail])
  refine isEnd_of_final (e := .respond response) trivial ho hi ?_ ?_
  · rw [loses, hkept, Bool.and_false]
  · simp [Event.isFinal, isFinal, hr]

/-- A server that asks to stop is the end if its answer can be read and kept. -/
theorem isEnd_stop_iff (ho : p.traffic.Orderly) (hc : p.canRequest = true)
    (hi : p.inFlight = q :: rest) (hs : response.status = stopStatus) :
    p.IsEnd (.respond response) ↔
      (environments? response.body).isSome = true ∧ p.canKeep response = true := by
  have hdelivered : delivered? response = environments? response.body := by
    unfold delivered?
    rw [hs, if_pos (by decide)]
  have hfinal : Event.isFinal (.respond response) = (environments? response.body).isSome := by
    simp [Event.isFinal, isFinal, hs, isRejection_stopStatus, hdelivered]
  have hloses : p.loses (.respond response) =
      ((environments? response.body).isSome && !p.canKeep response) := by
    simp [loses, hi, isLost, hdelivered]
  cases hread : (environments? response.body).isSome with
  | false =>
    rw [hread] at hfinal hloses
    have hmay := canRequest_of_not_final (e := .respond response) trivial hi hloses hfinal
    refine iff_of_false (fun hend => ?_) (fun hboth => Bool.false_ne_true hboth.1)
    exact Bool.false_ne_true (hend.2.1.symm.trans (hmay.trans hc))
  | true =>
    rw [hread, Bool.true_and] at hloses
    cases hkeep : p.canKeep response with
    | false =>
      rw [hkeep] at hloses
      refine iff_of_false (fun hend => ?_) (fun hboth => Bool.false_ne_true hboth.2)
      exact Bool.false_ne_true (hend.2.2.symm.trans (isBusy_of_lost ho hi hloses))
    | true =>
      rw [hkeep] at hloses
      exact iff_of_true (isEnd_of_final (e := .respond response) trivial ho hi hloses
        (hfinal.trans hread)) ⟨rfl, rfl⟩

end Respond

/-- What an answer leads to whose status dismisses the client. -/
theorem isEnd_respond_iff {response : Response} (ho : p.traffic.Orderly)
    (hp : p.traffic.IsPermitted) (hd : p.IsDismissal (.respond response)) :
    p.IsEnd (.respond response) ↔ (response.status = stopStatus →
      (environments? response.body).isSome = true ∧ p.canKeep response = true) := by
  obtain ⟨hi, hstatus⟩ := hd
  obtain ⟨q, rest, hcons⟩ := List.exists_cons_of_ne_nil hi
  rcases hstatus with hstop | hrejection
  · rw [isEnd_stop_iff ho (hp hi) hcons hstop]
    simp [hstop]
  · refine iff_of_true (isEnd_of_isRejection ho hcons hrejection) fun hstop => ?_
    rw [hstop, isRejection_stopStatus] at hrejection
    exact absurd hrejection Bool.false_ne_true

/-- Whoever is dismissed retires, unless the server asks to stop with an answer whose features
cannot be read, or which the clock cannot keep. -/
theorem dismissed_iff (hs : p.IsFresh) (hd : (p.run events).IsDismissal e) :
    (p.run (events ++ [e])).sent = (p.run events).sent ∧ (p.run (events ++ [e])).IsRetired ↔
      ∀ response, e = .respond response → response.status = stopStatus →
        (environments? response.body).isSome = true ∧
          (p.run events).canKeep response = true := by
  have horderly := orderly_run hs events
  rw [isRetired_iff (orderly_run hs (events ++ [e])), run_concat]
  cases e with
  | respond response =>
    refine (isEnd_respond_iff horderly (isPermitted_run hs events) hd).trans ?_
    simp
  | close =>
    obtain ⟨hover, hsent⟩ :=
      (finished_finish { p.run events with mayRequest := false, inFlight := [] }).isOver rfl rfl
    exact iff_of_true ⟨hsent, hover.canRequest, hover.isBusy⟩ fun response hr => nomatch hr
  | _ => exact hd.elim

/-! ### Samples -/

/-- An answer after which the server wants no requests. -/
def sampleStop (body : List UInt8) : Event := .respond ⟨stopStatus, some "max-age=5", none, body⟩

/-- A server that asks to stop is heard while somebody waits for another request. -/
theorem dismissed_while_waiting :
    let events := [.poll, sampleChange "a"]
    (sampleEdge.run events).IsDismissal (sampleStop [0x5B, 0x5D]) ∧
      (sampleEdge.run events).followUp = [1] ∧
      (sampleEdge.run (events ++ [sampleStop [0x5B, 0x5D]])).sent =
        (sampleEdge.run events).sent ∧
      (sampleEdge.run (events ++ [sampleStop [0x5B, 0x5D]])).IsRetired := by
  intro events
  have hd : (sampleEdge.run events).IsDismissal (sampleStop [0x5B, 0x5D]) :=
    ⟨by decide, Or.inl rfl⟩
  refine ⟨hd, by decide, (dismissed_iff isFresh_sampleEdge hd).mpr fun response hr _ => ?_⟩
  obtain rfl := Event.respond.inj hr
  exact ⟨by decide, by decide⟩

/-- A server that asks to stop with an answer that cannot be read is not heard. -/
theorem unreadable_stop_ignored :
    ¬ ∀ (p : Polling) (events : List Event) (e : Event), p.IsFresh →
      (p.run events).IsDismissal e →
        (p.run (events ++ [e])).sent = (p.run events).sent ∧
          (p.run (events ++ [e])).IsRetired := by
  intro h
  obtain ⟨-, hretired⟩ := h sampleEdge [.poll] (sampleStop [0x78]) isFresh_sampleEdge
    ⟨by decide, Or.inl rfl⟩
  have hsent := congrArg List.length (hretired [.poll]).1
  exact absurd hsent (by decide)

end FeatureFlags.Edge.Polling
