import FeatureFlags.Proofs.Polling.Queues

/-!
# Tags of features

A request carries the tag of the features that are known already, so that the server need not
send them again. A tag can be relied on (`Vouched`) if it came with an answer whose features went
into the repository, or with one by which the server confirmed features whose tag can be relied
on. A server that is asked with any other tag takes features for known that never arrived.

An edge keeps the tag of whatever answer brings one, before it looks at the rest of the answer.
The main statement is that all tags that are kept and sent can be relied on exactly if every
answer that brings a tag vouches for it, or repeats one that can be relied on.
-/

set_option autoImplicit false

namespace FeatureFlags.Edge.Polling

/-- The status with which a server confirms that the features are known. -/
def confirmStatus : Nat := 304

/-- Whether the features of an answer go into the repository. -/
def Supplies (p : Polling) (response : Response) : Prop :=
  (delivered? response).isSome = true ∧ p.shared.repository.isClosed = false

/-- The tags that can be relied on after a run. -/
inductive Vouched (p : Polling) : List Event → String → Prop
  /-- An answer brought features, which went into the repository. -/
  | supplied {es : List Event} {q : Request} {rest : List Request} {response : Response}
    {tag : String} (hi : (p.run es).inFlight = q :: rest) (ht : response.etag = some tag)
    (hs : (p.run es).Supplies response) : Vouched p (es ++ [.respond response]) tag
  /-- An answer confirmed features whose tag the request carried. -/
  | confirmed {es : List Event} {q : Request} {rest : List Request} {response : Response}
    {tag known : String} (hi : (p.run es).inFlight = q :: rest)
    (ht : response.etag = some tag) (hs : response.status = confirmStatus)
    (hk : q.etag = some known) (hv : Vouched p es known) :
    Vouched p (es ++ [.respond response]) tag
  /-- What could be relied on still can be. -/
  | later {es : List Event} {e : Event} {tag : String} (hv : Vouched p es tag) :
    Vouched p (es ++ [e]) tag

/-- Whether all tags that are kept or sent in a run can be relied on. -/
def KeepsVouched (p : Polling) (events : List Event) : Prop :=
  ∀ es, es <+: events → (∀ tag, (p.run es).etag = some tag → p.Vouched es tag) ∧
    ∀ q ∈ (p.run es).sent, ∀ tag, q.etag = some tag → p.Vouched es tag

/-- Whether every answer that brings a tag supplies features, or confirms those that were asked
for by their tag, or repeats a tag that can be relied on. -/
def NeverMistagged (p : Polling) (events : List Event) : Prop :=
  ∀ es response, es ++ [.respond response] <+: events → ∀ q rest tag,
    (p.run es).inFlight = q :: rest → response.etag = some tag →
      (p.run es).Supplies response ∨ response.status = confirmStatus ∧ q.etag.isSome = true ∨
        p.Vouched es tag

/-! ### What an answer leaves behind -/

variable {p : Polling} {e : Event} {events : List Event}

/-- The tag of an answer is kept, if it brings one. -/
theorem etag_respond {q : Request} {rest : List Request} (hi : p.inFlight = q :: rest)
    (response : Response) : (p.step (.respond response)).etag = response.etag.or p.etag := by
  have hheld := congrArg Holdings.etag (holdings_step p (.respond response))
  exact hheld.trans (by simp [heldAfter, hi, holdings, heed])

/-- Only an answer to a request changes the tag. -/
theorem etag_step (p : Polling) (e : Event) :
    (p.step e).etag = p.etag ∨ ∃ response q rest, e = .respond response ∧
      p.inFlight = q :: rest ∧ (p.step e).etag = response.etag.or p.etag := by
  have hheld : (p.step e).etag = (p.heldAfter e).etag :=
    congrArg Holdings.etag (holdings_step p e)
  cases e with
  | respond response =>
    cases hi : p.inFlight with
    | nil => exact Or.inl (by simp [step_of_isAnswer (e := .respond response) trivial hi])
    | cons q rest => exact Or.inr ⟨response, q, rest, rfl, rfl, etag_respond hi response⟩
  | breakOff =>
    refine Or.inl (hheld.trans ?_)
    rw [heldAfter]
    split <;> rfl
  | _ => exact Or.inl hheld

/-! ### Tags that are sent -/

/-- A request is made with the tag there is. -/
theorem etag_of_sent_check {t : Ticket} {r : Option Readiness} {q : Request}
    (h : q ∈ (p.check t r).sent) : q ∈ p.sent ∨ q.etag = p.etag := by
  unfold check at h
  simp only at h
  split at h
  · split at h <;> exact Or.inl h
  · split at h
    · rcases List.mem_append.mp h with h | h
      · exact Or.inl h
      · exact Or.inr (List.mem_singleton.mp h ▸ rfl)
    · exact Or.inl h

/-- What is sent when callers are checked carries the tag that the edge keeps. -/
theorem etag_of_sent_foldl_check {r : Option Readiness} {q : Request} (ts : List Ticket)
    (h : q ∈ (ts.foldl (fun p t => p.check t r) p).sent) : q ∈ p.sent ∨ q.etag = p.etag := by
  induction ts generalizing p with
  | nil => exact Or.inl h
  | cons t ts ih =>
    rcases ih h with hsent | htag
    · exact etag_of_sent_check hsent
    · exact Or.inr (htag.trans (congrArg Holdings.etag (holdings_check p t r)))

/-- What is sent after the end of a request carries the tag that the edge then keeps. -/
theorem etag_of_sent_finish {q : Request} (h : q ∈ p.finish.sent) :
    q ∈ p.sent ∨ q.etag = p.finish.etag := by
  rw [show p.finish.etag = p.etag from congrArg Holdings.etag (holdings_finish p)]
  unfold finish at h
  have hsent := etag_of_sent_foldl_check p.followUp h
  exact hsent

/-- What is sent for a poll carries the tag that the edge keeps. -/
theorem etag_of_sent_poll {q : Request} (h : q ∈ p.poll.1.sent) :
    q ∈ p.sent ∨ q.etag = p.poll.1.etag := by
  rw [show p.poll.1.etag = p.etag from congrArg Holdings.etag (holdings_poll p)]
  unfold poll at h
  have hsent := etag_of_sent_check h
  exact hsent

/-- Every request that an event leads to is made with the tag there is after it. -/
theorem etag_of_sent_step {q : Request} (h : q ∈ (p.step e).sent) :
    q ∈ p.sent ∨ q.etag = (p.step e).etag := by
  cases e with
  | poll => exact etag_of_sent_poll h
  | changeContext header sha => exact @etag_of_sent_poll (p.setContext header sha) q h
  | respond response =>
    cases hi : p.inFlight with
    | nil => exact Or.inl (by simpa [step, respond, hi] using h)
    | cons _ rest =>
      rw [step_respond hi, receive_eq_heed] at h ⊢
      split at h
      · exact Or.inl h
      · next hkept =>
        rw [if_neg hkept]
        exact etag_of_sent_finish h
  | breakOff =>
    cases hi : p.inFlight with
    | nil => exact Or.inl (by simpa [step, breakOff, hi] using h)
    | cons _ rest =>
      rw [step_breakOff hi] at h ⊢
      exact etag_of_sent_finish h
  | close =>
    exact @etag_of_sent_finish { p with mayRequest := false, inFlight := [] } q h
  | modifyRepository | setClock => exact Or.inl h

namespace Traffic

variable {t t' : Traffic} {ks : List Ticket}

/-- What is under way after a check was sent. -/
theorem Checked.inFlight_subset (h : t.Checked ks t') (hi : t.inFlight ⊆ t.sent) :
    t'.inFlight ⊆ t'.sent := by
  cases h with
  | @ask q =>
    exact List.append_subset.mpr ⟨fun r hr => List.mem_append_left _ (hi hr),
      List.subset_append_right ..⟩
  | settle => exact hi

/-- What is under way after the end of a request was sent. -/
theorem Finished.inFlight_subset (h : t.Finished t') (hi : t.inFlight ⊆ t.sent) :
    t'.inFlight ⊆ t'.sent := by
  cases h with
  | alone => exact hi
  | again _ hc => exact hc.inFlight_subset hi

/-- What is under way was sent. -/
theorem Moves.inFlight_subset (h : t.Moves e t') (hi : t.inFlight ⊆ t.sent) :
    t'.inFlight ⊆ t'.sent := by
  have hrest : ∀ q rest, t.inFlight = q :: rest → rest ⊆ t.sent := fun q rest heq r hr =>
    hi (heq ▸ List.mem_cons_of_mem q hr)
  cases h with
  | quiet => exact hi
  | join => simpa using hi
  | check _ _ hc => exact hc.inFlight_subset (by simpa using hi)
  | lose _ heq => exact hrest _ _ heq
  | finish _ heq _ hf => exact hf.inFlight_subset (hrest _ _ heq)
  | close hf => exact hf.inFlight_subset (List.nil_subset _)

end Traffic

/-- In every run of a fresh edge what is under way was sent. -/
theorem inFlight_subset_run (hs : p.IsFresh) (events : List Event) :
    (p.run events).inFlight ⊆ (p.run events).sent := by
  have hstart : p.inFlight ⊆ p.sent := by
    rw [hs.inFlight_eq_nil]
    exact List.nil_subset _
  exact preserved_run (P := fun t => t.inFlight ⊆ t.sent)
    (fun _ _ _ _ h hm => hm.inFlight_subset h) hs hstart events

/-! ### Runs -/

/-- A tag that can be relied on could be relied on before, or came with the last answer. -/
theorem Vouched.of_concat {es : List Event} {tag : String} (h : p.Vouched (es ++ [e]) tag) :
    p.Vouched es tag ∨ ∃ response q rest, e = .respond response ∧
      (p.run es).inFlight = q :: rest ∧
      ((p.run es).Supplies response ∨
        response.status = confirmStatus ∧ q.etag.isSome = true) := by
  generalize hes : es ++ [e] = es' at h
  cases h with
  | supplied hi ht hs =>
    obtain ⟨rfl, he⟩ := List.append_inj' hes rfl
    exact Or.inr ⟨_, _, _, List.singleton_inj.mp he, hi, Or.inl hs⟩
  | confirmed hi ht hs hk hv =>
    obtain ⟨rfl, he⟩ := List.append_inj' hes rfl
    exact Or.inr ⟨_, _, _, List.singleton_inj.mp he, hi, Or.inr ⟨hs, hk ▸ rfl⟩⟩
  | later hv =>
    obtain ⟨rfl, -⟩ := List.append_inj' hes rfl
    exact Or.inl hv

/-- If the tags of a run can be relied on, and its last answer does not bring another one, they
can be relied on after it. -/
theorem vouched_step {es : List Event}
    (hkept : ∀ tag, (p.run es).etag = some tag → p.Vouched es tag)
    (hsent : ∀ q ∈ (p.run es).sent, ∀ tag, q.etag = some tag → p.Vouched es tag)
    (hflight : (p.run es).inFlight ⊆ (p.run es).sent)
    (hnever : p.NeverMistagged (es ++ [e])) :
    (∀ tag, (p.run (es ++ [e])).etag = some tag → p.Vouched (es ++ [e]) tag) ∧
      ∀ q ∈ (p.run (es ++ [e])).sent, ∀ tag, q.etag = some tag → p.Vouched (es ++ [e]) tag := by
  have hetag : ∀ tag, (p.run (es ++ [e])).etag = some tag → p.Vouched (es ++ [e]) tag := by
    intro tag htag
    rw [run_concat] at htag
    rcases etag_step (p.run es) e with hsame | ⟨response, q, rest, rfl, hi, hnew⟩
    · exact .later (hkept tag (hsame ▸ htag))
    · rw [hnew] at htag
      cases ht : response.etag with
      | none => exact .later (hkept tag (by simpa [ht] using htag))
      | some new =>
        obtain rfl : new = tag := by simpa [ht] using htag
        rcases hnever es response (List.prefix_refl _) q rest new hi ht with
          hsupplies | ⟨hstatus, hknown⟩ | hv
        · exact .supplied hi ht hsupplies
        · obtain ⟨known, hk⟩ := Option.isSome_iff_exists.mp hknown
          have hmem : q ∈ (p.run es).sent := hflight (hi ▸ List.mem_cons_self ..)
          exact .confirmed hi ht hstatus hk (hsent q hmem known hk)
        · exact .later hv
  refine ⟨hetag, fun q hq tag htag => ?_⟩
  rw [run_concat] at hq
  rcases etag_of_sent_step hq with hq | hpresent
  · exact .later (hsent q hq tag htag)
  · refine hetag tag ?_
    rw [run_concat, ← hpresent, htag]

/-- All tags that are kept and sent can be relied on exactly if every answer that brings a tag
vouches for it, or repeats one that can be relied on. -/
theorem keepsVouched_iff (hs : p.IsFresh) :
    p.KeepsVouched events ↔ p.NeverMistagged events := by
  constructor
  · intro hkeeps es response hes q rest tag hi ht
    have htag : (p.run (es ++ [.respond response])).etag = some tag := by
      rw [run_concat, etag_respond hi, ht, Option.some_or]
    have hvouched := (hkeeps _ hes).1 tag htag
    rcases hvouched.of_concat with hv | ⟨_, _, _, he, hi', hvouches⟩
    · exact Or.inr (Or.inr hv)
    · obtain rfl := Event.respond.inj he
      obtain ⟨rfl, -⟩ := List.cons.inj (hi.symm.trans hi')
      exact hvouches.imp_right Or.inl
  · intro hnever es
    induction es using List.reverseRecOn with
    | nil =>
      intro _
      obtain ⟨shared, edgeUrl, apiKeys, interval, isDelegated, rfl, -⟩ := hs
      exact ⟨fun _ htag => (nomatch htag), fun _ hq => absurd hq List.not_mem_nil⟩
    | append_singleton es e ih =>
      intro hes
      obtain ⟨hkept, hsent⟩ := ih ((List.prefix_append es [e]).trans hes)
      refine vouched_step hkept hsent (inFlight_subset_run hs es) ?_
      exact fun es' response hes' => hnever es' response (hes'.trans hes)

/-! ### Samples -/

/-- An answer without features that brings a tag. -/
def sampleTagged (status : Nat) (tag : String) : Event := .respond ⟨status, none, some tag, []⟩

/-- Features that are confirmed under another tag keep their tags reliable. -/
theorem keepsVouched_confirmed :
    let events := [.poll, .respond ⟨200, none, some "v1", [0x5B, 0x5D]⟩, sampleChange "a",
      sampleTagged confirmStatus "v2", sampleChange "b"]
    sampleEdge.KeepsVouched events ∧
      (sampleEdge.run events).sent.map Request.etag = [none, some "v1", some "v2"] := by
  intro events
  refine ⟨(keepsVouched_iff isFresh_sampleEdge).mpr ?_, by decide⟩
  intro es response hes q rest tag hi ht
  obtain ⟨later, hlater⟩ := hes
  have hes : es = events.take es.length := by simp [← hlater]
  have hanswer : events[es.length]? = some (.respond response) := by simp [← hlater]
  have hlength : es.length < 5 := by
    have hlength := congrArg List.length hlater
    simp [events] at hlength
    omega
  generalize es.length = n at hes hanswer hlength
  subst hes
  match n, hlength with
  | 0, _ => exact nomatch hanswer
  | 1, _ =>
    obtain rfl := Event.respond.inj (Option.some.inj hanswer)
    exact Or.inl ⟨by decide, by decide⟩
  | 2, _ => exact nomatch hanswer
  | 3, _ =>
    obtain rfl := Event.respond.inj (Option.some.inj hanswer)
    refine Or.inr (Or.inl ⟨rfl, ?_⟩)
    have htag : (sampleEdge.run (events.take 3)).inFlight.head?.bind Request.etag =
        some "v1" := by decide
    rw [hi] at htag
    exact Option.isSome_iff_exists.mpr ⟨"v1", htag⟩
  | 4, _ => exact nomatch hanswer

/-- Before any answer no tag can be relied on. -/
theorem not_vouched_nil (tag : String) : ¬ p.Vouched [] tag := by
  intro h
  generalize hes : [] = es at h
  cases h <;> simp at hes

/-- An edge sends the tag of an answer that reports an error. -/
theorem tag_of_error_sent :
    ¬ ∀ (p : Polling) (events : List Event), p.IsFresh → p.KeepsVouched events := by
  intro h
  have hvouched := (h sampleEdge [.poll, sampleTagged 503 "v1"] isFresh_sampleEdge _
    (List.prefix_refl _)).1 "v1" (by decide)
  rcases @Vouched.of_concat sampleEdge _ [.poll] "v1" hvouched with
    hv | ⟨response, q, rest, he, -, hs | ⟨hs, -⟩⟩
  · rcases @Vouched.of_concat sampleEdge _ [] "v1" hv with hv | ⟨_, _, _, he, -⟩
    · exact not_vouched_nil _ hv
    · exact nomatch he
  · obtain rfl := Event.respond.inj he
    exact absurd hs.1 (by decide)
  · obtain rfl := Event.respond.inj he
    exact absurd hs (by decide)

end FeatureFlags.Edge.Polling
