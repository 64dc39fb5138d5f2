import FeatureFlags.Proofs.Polling.ContextChanges

/-!
# Requests for the latest context

Whoever changes the context wants the features for it. A change without a request under way is
asked for at once. A change while a request is under way is to be asked for after it. Whether it
is depends on the changes that are still `unasked`, those since the last one whose header the
last request carried. Each of them has to have another header than the one before it: a change
that repeats a header takes back that the header has changed, and waits for the request under way
like a caller who changes nothing.

The main statement is that changes are missed in no other way by an edge that is allowed to ask,
but for an answer that is lost, after which nothing is asked any more. In every run, the last
request is for the latest context whenever none is under way, and no change is answered before
the last request is for it or a later one, exactly if no request ends while unasked changes
repeat a header, and no change is left unasked by an answer that was lost.
-/

set_option autoImplicit false

namespace FeatureFlags.Edge.Polling

namespace Traffic

/-- Whether an event ends the request under way. -/
def Ends (t : Traffic) (e : Event) (t' : Traffic) : Prop :=
  e.IsAnswer ∧ t.inFlight ≠ [] ∧ ¬ t'.IsHung

/-- Whether no change is answered from one moment to another while it is not asked for. -/
def InTime (cs : List ContextChange) (t t' : Traffic) : Prop :=
  ∀ c ∈ t.unasked cs, c.ticket ∉ t.answered → c.ticket ∉ t'.answered

end Traffic

/-- Whether the last request is for the latest context whenever none is under way. -/
def AsksForLatest (p : Polling) (events : List Event) : Prop :=
  ∀ es, es <+: events → (p.run es).inFlight = [] → ∀ c, (p.changes es).getLast? = some c →
    ∃ q, (p.run es).sent.getLast? = some q ∧ c.IsAskedBy p.url q

/-- Whether a change is only answered when the last request was for it or a later one. -/
def AnswersAfterAsking (p : Polling) (events : List Event) : Prop :=
  ∀ es e, es ++ [e] <+: events → ∀ earlier c later,
    p.changes (es ++ [e]) = earlier ++ c :: later →
    (p.run es).shared.futures.result? c.ticket = none →
    (p.run (es ++ [e])).shared.futures.result? c.ticket ≠ none →
    ∃ d ∈ c :: later, ∃ q, (p.run es).sent.getLast? = some q ∧ d.IsAskedBy p.url q

/-- Whether no request ends while unasked changes repeat a header. -/
def NeverRepeats (p : Polling) (events : List Event) : Prop :=
  ∀ es e, es ++ [e] <+: events → (p.run es).traffic.Ends e (p.run (es ++ [e])).traffic →
    NoRepeat ((p.run es).traffic.unasked (p.changes es))

/-- Whether no change is left unasked by an answer that was lost. -/
def NeverStranded (p : Polling) (events : List Event) : Prop :=
  ∀ es, es <+: events → (p.run es).traffic.IsHung →
    (p.run es).traffic.unasked (p.changes es) = []

/-! ### The end of a request -/

namespace Traffic

variable {digest : String → String} {cs : List ContextChange} {t t' : Traffic} {e : Event}

/-- A change is only answered when the last request was for it or a later one exactly if none is
answered that is unasked. -/
theorem Known.answers_after_asking_iff {before : List ContextChange}
    (h : t.Known digest before)
    (hcs : ∀ c ∈ cs, c.header.isSome = true ∧ c.sha = shaOf digest c.header) :
    (∀ earlier c later, cs = earlier ++ c :: later → c.ticket ∉ t.answered →
      c.ticket ∈ t'.answered →
        ∃ d ∈ c :: later, ∃ q, t.sent.getLast? = some q ∧ d.IsAskedBy t.url q) ↔
      InTime cs t t' := by
  constructor
  · intro hall c hc hopen hanswered
    obtain ⟨pre, hpre⟩ : t.unasked cs <:+ cs := List.rtakeWhile_suffix _ cs
    obtain ⟨skipped, later, hsplit⟩ := List.append_of_mem hc
    have hcut : cs = (pre ++ skipped) ++ c :: later := by
      rw [← hpre, hsplit, List.append_assoc]
    obtain ⟨d, hd, hasked⟩ := hall _ c later hcut hopen hanswered
    have hmem : d ∈ t.unasked cs := hsplit ▸ List.mem_append_right _ hd
    refine header_ne_of_mem_unasked hmem ((h.asked_iff (hcs d ?_)).mp hasked)
    exact hcut ▸ List.mem_append_right _ hd
  · intro ht earlier c later hcut hopen hanswered
    by_contra hnone
    refine ht c ?_ hopen hanswered
    rw [hcut]
    refine mem_unasked (fun d hd heq => hnone ⟨d, hd, ?_⟩) (List.mem_cons_self ..)
    exact (h.asked_iff (hcs d (hcut ▸ List.mem_append_right _ hd))).mpr heq

/-- When a request ends and none follows it, no change is unasked that repeats no header. -/
theorem Queued.unasked_eq_nil (h : t.Queued cs) {rest : List Request} {may : Bool}
    (hf : Finished { t with inFlight := rest, canRequest := may } t') (hb' : t'.isBusy = false)
    (hc : t'.canRequest = true) (hno : NoRepeat (t.unasked cs)) : t.unasked cs = [] := by
  by_contra hne
  cases hf with
  | alone hfollow => exact h.followUp_ne_nil hne hfollow
  | again _ hcheck =>
    cases hcheck with
    | ask => exact nomatch hb'
    | settle hsame => exact h.repeated (hsame hc) hne hno

/-- A caller who is answered at once changes nothing. -/
theorem Tracked.unasked_eq_nil_of_settle (h : t.Tracked digest cs) (he : e.IsDigested digest)
    (hcaught : t.unasked cs = []) (hh : (t.enter e).headerChanged = false) :
    t.unasked (cs ++ (t.change? e).toList) = [] := by
  cases e with
  | changeContext header sha =>
    have hsame : header = t.header := by
      have hchanged : (header.isSome && header != t.header) = false := hh
      rw [he.1, Bool.true_and] at hchanged
      simpa using hchanged
    rw [show t.change? (.changeContext header sha) = some ⟨t.nextTicket, header, sha⟩ from rfl,
      Option.toList_some, unasked_concat]
    exact if_pos (hsame.trans (h.known.unasked_eq_nil_iff.mp hcaught))
  | _ =>
    simp only [change?, Option.toList_none, List.append_nil]
    exact hcaught

/-- Without a request under way, no change is unasked if this was so before, and no unasked
changes repeated a header when the request ended. -/
theorem Tracked.unasked_eq_nil (h : t.Tracked digest cs) (he : e.IsDigested digest)
    (hm : t.Moves e t') (hc : t'.canRequest = true)
    (hcaught : t.isBusy = false → t.unasked cs = [])
    (hends : t.Ends e t' → NoRepeat (t.unasked cs)) (hb' : t'.isBusy = false) :
    t'.sent = t.sent ∧ t'.unasked (cs ++ (t.change? e).toList) = [] := by
  cases hm with
  | quiet hcall =>
    rw [t.change?_of_not_isCall hcall, Option.toList_none, List.append_nil]
    exact ⟨rfl, hcaught hb'⟩
  | join hcall hb => simp [hb] at hb'
  | check hcall hb hcheck =>
    cases hcheck with
    | ask => exact nomatch hb'
    | settle hsame =>
      have hsent : ((t.enter e).settle [t.nextTicket]).sent = t.sent := sent_enter t e
      refine ⟨hsent, ?_⟩
      rw [unasked_congr hsent]
      exact h.unasked_eq_nil_of_settle he (hcaught hb) (hsame hc)
  | lose hanswer hi =>
    have hbusy := h.orderly.isBusy_of_inFlight (hi ▸ List.cons_ne_nil _ _)
    exact absurd (hbusy.symm.trans hb') Bool.noConfusion
  | finish hanswer hi hmay hf =>
    have hinFlight : t.inFlight ≠ [] := hi ▸ List.cons_ne_nil _ _
    have hno := hends ⟨hanswer, hinFlight, hf.not_isHung⟩
    have hnil := (h.queued_of_inFlight hinFlight).unasked_eq_nil hf hb' hc hno
    have hsent : t'.sent = t.sent := hf.sent_of_idle hb'
    rw [t.change?_of_isAnswer hanswer, Option.toList_none, List.append_nil, unasked_congr hsent]
    exact ⟨hsent, hnil⟩
  | close hf => exact nomatch hf.canRequest_eq.symm.trans hc

/-- No change is answered too early, under the same conditions. -/
theorem Tracked.inTime (h : t.Tracked digest cs) (he : e.IsDigested digest)
    (hm : t.Moves e t') (hc : t'.canRequest = true)
    (hcaught : t.isBusy = false → t.unasked cs = [])
    (hends : t.Ends e t' → NoRepeat (t.unasked cs)) :
    InTime (cs ++ (t.change? e).toList) t t' := by
  intro c hmem hopen
  cases hb' : t'.isBusy with
  | false =>
    obtain ⟨hsent, hnil⟩ := h.unasked_eq_nil he hm hc hcaught hends hb'
    rw [unasked_congr hsent] at hnil
    exact absurd (hnil ▸ hmem) List.not_mem_nil
  | true =>
    cases hm with
    | quiet | lose => exact hopen
    | join => simpa using hopen
    | check hcall hb hcheck =>
      cases hcheck with
      | ask => exact (answered_enter t e).symm ▸ hopen
      | settle => exact absurd (((isBusy_enter t e).trans hb).symm.trans hb') Bool.noConfusion
    | finish hanswer hi hmay hf =>
      have hinFlight : t.inFlight ≠ [] := hi ▸ List.cons_ne_nil _ _
      have hno := hends ⟨hanswer, hinFlight, hf.not_isHung⟩
      rw [t.change?_of_isAnswer hanswer, Option.toList_none, List.append_nil] at hmem
      have hwaiting := (h.queued_of_inFlight hinFlight).noRepeat_iff.mp hno c hmem
      rw [hf.answered_of_busy hb']
      exact fun hanswered => (List.mem_append.mp hanswered).elim hopen hwaiting
    | close hf => exact nomatch hf.canRequest_eq.symm.trans hc

/-- If no change is answered too early when a request ends, unasked changes repeat no header. -/
theorem Tracked.noRepeat_of_inTime (h : t.Tracked digest cs) (hm : t.Moves e t')
    (hends : t.Ends e t') (ht : InTime (cs ++ (t.change? e).toList) t t') :
    NoRepeat (t.unasked cs) := by
  obtain ⟨hanswer, hinFlight, hhung⟩ := hends
  rw [t.change?_of_isAnswer hanswer, Option.toList_none, List.append_nil] at ht
  cases hm with
  | quiet _ hi => exact absurd (hi hanswer) hinFlight
  | join hcall | check hcall => exact absurd hcall (Event.not_isCall_of_isAnswer hanswer)
  | lose _ hi =>
    have hbusy := h.orderly.isBusy_of_inFlight hinFlight
    exact absurd ⟨hbusy, h.orderly.rest_eq_nil hi⟩ hhung
  | finish _ hi _ hf =>
    refine (h.queued_of_inFlight hinFlight).noRepeat_iff.mpr fun c hc hwaiting => ?_
    have hopen := (h.orderly.pending c.ticket (List.mem_append_left _ hwaiting)).2
    exact ht c hc hopen (hf.mem_answered hwaiting)
  | close => exact hanswer.elim

end Traffic

/-! ### Runs -/

variable {digest : String → String} {p : Polling} {events : List Event}

/-- The latest context is asked for exactly if no change is unasked whenever no request is under
way. -/
theorem asksForLatest_iff (hs : p.IsFresh) (hd : ∀ e ∈ events, e.IsDigested digest) :
    p.AsksForLatest events ↔ ∀ es, es <+: events → (p.run es).inFlight = [] →
      (p.run es).traffic.unasked (p.changes es) = [] := by
  refine forall₃_congr fun es hes _ => ?_
  have htracked := @tracked_run digest p es hs fun e he => hd e (hes.subset he)
  rw [← htracked.known.asked_latest_iff, ← url_run p es]
  rfl

/-- Callers are answered after a request for them exactly if every single event answers in time. -/
theorem answersAfterAsking_iff (hs : p.IsFresh) (hd : ∀ e ∈ events, e.IsDigested digest) :
    p.AnswersAfterAsking events ↔ ∀ es e, es ++ [e] <+: events →
      Traffic.InTime (p.changes (es ++ [e])) (p.run es).traffic
        (p.run (es ++ [e])).traffic := by
  refine forall₃_congr fun es e hes => ?_
  have htracked := @tracked_run digest p es hs fun e he =>
    hd e (hes.subset (List.mem_append_left _ he))
  have htracked' := @tracked_run digest p (es ++ [e]) hs fun e he => hd e (hes.subset he)
  rw [← htracked.known.answers_after_asking_iff htracked'.known.digested, ← url_run p es]
  simp only [ne_eq, result?_eq_none_iff, Classical.not_not]
  rfl

/-- An edge that is allowed to ask asks for the latest context, and answers no change before,
exactly if no request ends while unasked changes repeat a header, and no change is left unasked by
an answer that was lost. -/
theorem asks_for_latest_iff (hs : p.IsFresh) (hd : ∀ e ∈ events, e.IsDigested digest)
    (hc : (p.run events).canRequest = true) :
    p.AsksForLatest events ∧ p.AnswersAfterAsking events ↔
      p.NeverRepeats events ∧ p.NeverStranded events := by
  rw [asksForLatest_iff hs hd, answersAfterAsking_iff hs hd]
  have htracked : ∀ es, es <+: events → (p.run es).traffic.Tracked digest (p.changes es) :=
    fun es hes => tracked_run hs fun e he => hd e (hes.subset he)
  have hmoves : ∀ es e, (p.run es).traffic.Moves e (p.run (es ++ [e])).traffic := by
    intro es e
    rw [run_concat]
    exact moves_step ..
  constructor
  · rintro ⟨hasks, hanswers⟩
    refine ⟨fun es e hes hends => ?_, fun es hes hhung => hasks es hes hhung.2⟩
    have ht := hanswers es e hes
    rw [changes_concat] at ht
    have hes' : es <+: events := (List.prefix_append es [e]).trans hes
    exact (htracked es hes').noRepeat_of_inTime (hmoves es e) hends ht
  · rintro ⟨hrepeats, hstranded⟩
    -- by induction on the prefix: an edge that is not busy has asked for every change
    have hcaught : ∀ es, es <+: events → (p.run es).isBusy = false →
        (p.run es).traffic.unasked (p.changes es) = [] := by
      intro es
      induction es using List.reverseRecOn with
      | nil => exact fun _ _ => rfl
      | append_singleton es e ih =>
        intro hes hb
        have hes' : es <+: events := (List.prefix_append es [e]).trans hes
        rw [changes_concat]
        exact ((htracked es hes').unasked_eq_nil (hd e (hes.subset (by simp))) (hmoves es e)
          (canRequest_before hes hc) (ih hes') (hrepeats es e hes) hb).2
    constructor
    · intro es hes hi
      cases hb : (p.run es).isBusy with
      | false => exact hcaught es hes hb
      | true => exact hstranded es hes ⟨hb, hi⟩
    · intro es e hes
      have hes' : es <+: events := (List.prefix_append es [e]).trans hes
      rw [changes_concat]
      exact (htracked es hes').inTime (hd e (hes.subset (by simp))) (hmoves es e)
        (canRequest_before hes hc) (hcaught es hes') (hrepeats es e hes)

/-! ### Samples -/

/-- Two changes while a request is under way are asked for together. -/
theorem asks_for_latest_of_two :
    let events := [.poll, sampleChange "a", sampleChange "b", sampleAnswer, .poll, sampleAnswer]
    (∀ e ∈ events, e.IsDigested ("sha " ++ ·)) ∧ (sampleEdge.run events).canRequest = true ∧
      sampleEdge.AsksForLatest events ∧ sampleEdge.AnswersAfterAsking events := by
  intro events
  have hd : ∀ e ∈ events, e.IsDigested ("sha " ++ ·) := by
    simp [events, Event.IsDigested, sampleChange, sampleAnswer, shaOf]
  have hc : (sampleEdge.run events).canRequest = true := by decide
  have hhung : ∀ n ≤ 6, ¬ (sampleEdge.run (events.take n)).traffic.IsHung := by
    unfold Traffic.IsHung
    decide
  have hrepeat : ∀ n ≤ 6, NoRepeat
      ((sampleEdge.run (events.take n)).traffic.unasked (sampleEdge.changes (events.take n))) := by
    unfold NoRepeat
    decide
  refine ⟨hd, hc, (asks_for_latest_iff isFresh_sampleEdge hd hc).mpr ⟨fun es e hes _ => ?_,
    fun es hes h => ?_⟩⟩
  · have hes' : es <+: events := (List.prefix_append es [e]).trans hes
    rw [List.prefix_iff_eq_take.mp hes']
    exact hrepeat es.length hes'.length_le
  · rw [List.prefix_iff_eq_take.mp hes] at h
    exact absurd h (hhung es.length hes.length_le)

/-- A change that is made twice while a request is under way is never asked for. -/
theorem repeated_change_not_asked :
    ¬ ∀ (p : Polling) (digest : String → String) (events : List Event), p.IsFresh →
      (∀ e ∈ events, e.IsDigested digest) → (p.run events).canRequest = true →
        p.AsksForLatest events := by
  intro h
  have hall := h sampleEdge ("sha " ++ ·)
    [sampleChange "a", sampleChange "b", sampleChange "b", sampleAnswer] isFresh_sampleEdge
    (by simp [Event.IsDigested, sampleChange, sampleAnswer, shaOf]) (by decide)
  obtain ⟨q, hq, hheader, -⟩ :=
    hall _ (List.prefix_refl _) (by decide) ⟨2, some "b", "sha b"⟩ rfl
  have hlast : (sampleEdge.run [sampleChange "a", sampleChange "b", sampleChange "b",
      sampleAnswer]).sent.getLast?.bind Request.header = some "a" := by decide
  rw [hq] at hlast
  exact absurd (hheader.symm.trans hlast) (by decide)

end FeatureFlags.Edge.Polling
