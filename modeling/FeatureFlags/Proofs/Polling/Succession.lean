import FeatureFlags.Proofs.Polling.Queues

/-!
# Requests that follow

A caller who takes another header for the context wants to hear of a request that carries it: one
that is under way (`IsAsking`), or the next one after it (`AsksNext`), however the one under way
ends. The next one is certain while the header counts as changed, and only then.

The main statement says when such a request is in sight after a change of the context. A change
to some header always leads to one, unless the edge hangs. A change that takes the header away
does not count as one, and leads to a request only if one is due without it.
-/

set_option autoImplicit false

namespace FeatureFlags.Edge.Polling

/-- Whether a request with some header, or without one, is under way. -/
def IsAsking (p : Polling) (header : Option String) : Prop :=
  ∃ q ∈ p.inFlight, q.header = header

/-- Whether such a request follows the one under way, whenever and however that ends: unless no
request is allowed afterwards, or the answer is lost. -/
def AsksNext (p : Polling) (header : Option String) : Prop :=
  p.inFlight ≠ [] ∧ ∀ now e, e.IsAnswer → (p.step (.setClock now)).loses e = false →
    (p.run [.setClock now, e]).canRequest = true → (p.run [.setClock now, e]).IsAsking header

/-- Whether a request is due although the context is the same. -/
def isStale (p : Polling) : Bool := p.interval.isZero || p.hasExpired

variable {p : Polling} {header : Option String}

/-- A request is due if the last answer is stale or the header has changed. -/
theorem isDue_eq_isStale (hpassive : p.isDelegated = false) :
    p.isDue = (p.isStale || p.headerChanged) := by
  simp [isDue, isStale, hpassive]

/-- Without a request under way nothing is asked. -/
theorem not_isAsking_of_inFlight_eq_nil (h : p.inFlight = []) : ¬ p.IsAsking header := by
  rintro ⟨q, hq, -⟩
  exact absurd (h ▸ hq) List.not_mem_nil

/-! ### The request after the one under way -/

/-- If the header has changed, those who wait for the next request get one that carries it. -/
theorem Traffic.Finished.asks_of_changed {t t' : Traffic} (h : t.Finished t')
    (hfollow : t.followUp ≠ []) (hh : t.headerChanged = true) (hc : t'.canRequest = true) :
    ∃ q ∈ t'.inFlight, q.header = t.header := by
  cases h with
  | alone hnil => exact absurd hnil hfollow
  | again _ hcheck =>
    cases hcheck with
    | ask _ hheader => exact ⟨_, List.mem_append_right _ (List.mem_singleton_self _), hheader⟩
    | settle hsame => exact absurd ((hsame hc).symm.trans hh) Bool.false_ne_true

/-- While the header counts as changed, a request that carries it follows. -/
theorem asksNext_of_changed (ho : p.traffic.Orderly) (hi : p.inFlight ≠ [])
    (hh : p.headerChanged = true) : p.AsksNext p.header := by
  refine ⟨hi, fun now e he hkept hc => ?_⟩
  obtain ⟨q, rest, hi'⟩ := List.exists_cons_of_ne_nil hi
  have hfinished := finished_answer (p := p.step (.setClock now)) he hi' hkept
  exact hfinished.asks_of_changed (ho.changed hh) hh hc

/-- An answer that is kept for a second. -/
def briefAnswer : Response := ⟨200, some "max-age=1", none, [0x5B, 0x5D]⟩

/-- The sample answer is kept for a second. -/
theorem keeping_briefAnswer (p : Polling) : p.keeping briefAnswer = .ofSeconds 1 := by
  have hmaxAge : maxAge? "max-age=1" = some (.ofSeconds 1) := by decide
  simp [keeping, briefAnswer, hmaxAge]

/-- The sample answer delivers no features, but can be read. -/
theorem delivered?_briefAnswer : delivered? briefAnswer = some [] := rfl

/-- The sample answer is not the end of all requests. -/
theorem isFinal_briefAnswer : isFinal briefAnswer = false := by decide

section Brief

variable (h0 : p.shared.now = ⟨0⟩)

include h0

/-- The sample answer is not lost. -/
theorem isLost_briefAnswer : p.isLost briefAnswer = false := by
  have hafter : ((⟨0⟩ : Instant).after? (.ofSeconds 1)).isSome = true := by decide
  simp [isLost, canKeep, keeping_briefAnswer, h0, hafter]

/-- As long as such an answer is kept, a request is due only for another header. -/
theorem isDue_heed_briefAnswer (hd : p.isDelegated = false) (hh : p.headerChanged = false) :
    (p.heed briefAnswer).isDue = false := by
  have hafter : (⟨0⟩ : Instant).after? (.ofSeconds 1) = some ⟨1000000000⟩ := by decide
  have hzero : (Duration.ofSeconds 1).isZero = false := by decide
  simp [isDue, hasExpired, heed, keeping_briefAnswer, delivered?_briefAnswer, h0, hafter, hzero,
    hd, hh, Instant.hasCome, Shared.modifyRepository]

/-- No request follows such an answer without a change of the context. -/
theorem inFlight_respond_briefAnswer (hd : p.isDelegated = false) (hh : p.headerChanged = false)
    {q : Request} {rest : List Request} (hi : p.inFlight = q :: rest) :
    (p.step (.respond briefAnswer)).inFlight = rest := by
  have hdue : (({ p with inFlight := rest } : Polling).heed briefAnswer).isDue = false :=
    isDue_heed_briefAnswer h0 hd hh
  rw [step_respond_of_kept hi (isLost_briefAnswer h0), inFlight_finish_of_not_due hdue]
  rfl

end Brief

/-- While the header counts as unchanged, there are answers that no request follows. -/
theorem not_asksNext_of_unchanged (ho : p.traffic.Orderly) (hd : p.isDelegated = false)
    (hc : p.canRequest = true) (hh : p.headerChanged = false) : ¬ p.AsksNext header := by
  rintro ⟨hi, hnext⟩
  obtain ⟨q, rest, hi'⟩ := List.exists_cons_of_ne_nil hi
  have hkept : (p.step (.setClock ⟨0⟩)).loses (.respond briefAnswer) = false := by
    rw [loses, isLost_briefAnswer rfl, Bool.and_false]
  have hend : (p.run [.setClock ⟨0⟩, .respond briefAnswer]).canRequest = true :=
    (canRequest_of_not_final (p := p.step (.setClock ⟨0⟩)) (e := .respond briefAnswer) trivial hi'
      hkept isFinal_briefAnswer).trans hc
  have hnone : (p.run [.setClock ⟨0⟩, .respond briefAnswer]).inFlight = [] :=
    (inFlight_respond_briefAnswer (p := p.step (.setClock ⟨0⟩)) rfl hd hh hi').trans
      (ho.rest_eq_nil hi')
  exact not_isAsking_of_inFlight_eq_nil hnone (hnext ⟨0⟩ _ trivial hkept hend)

/-! ### Changes of the context -/

section Changes

variable (p header) (sha : String)

/-- A change of the context is taken. -/
theorem header_changeContext : (p.step (.changeContext header sha)).header = header :=
  congrArg Traffic.Front.header (moves_step p (.changeContext header sha)).front_eq

/-- A change of the context neither allows requests nor forbids them. -/
theorem canRequest_changeContext :
    (p.step (.changeContext header sha)).canRequest = p.canRequest :=
  congrArg (fun h : Holdings => h.mayRequest && !h.isStopped)
    (holdings_step p (.changeContext header sha))

variable {p} (hb : p.isBusy = true)

include hb

/-- A busy edge sends nothing when the context changes. -/
theorem inFlight_changeContext_of_busy :
    (p.step (.changeContext header sha)).inFlight = p.inFlight := by
  have htraffic := traffic_call_of_busy (e := .changeContext header sha) trivial hb
  have hflight := congrArg Traffic.inFlight htraffic
  rwa [Traffic.inFlight_join, Traffic.inFlight_enter] at hflight

/-- A busy edge notes a change to another header, and none to no header. -/
theorem headerChanged_changeContext_of_busy :
    (p.step (.changeContext header sha)).headerChanged =
      (header.isSome && header != p.header) := by
  have htraffic := traffic_call_of_busy (e := .changeContext header sha) trivial hb
  have hchanged := congrArg Traffic.headerChanged htraffic
  rwa [Traffic.headerChanged_join] at hchanged

end Changes

/-- A change while a request is under way waits for it or for the next one. -/
theorem changeContext_asks_iff_of_busy (ho : p.traffic.Orderly) (hd : p.isDelegated = false)
    (hc : p.canRequest = true) (hne : header ≠ p.header) (hb : p.isBusy = true) (sha : String) :
    ((p.step (.changeContext header sha)).IsAsking header ∨
        (p.step (.changeContext header sha)).AsksNext header) ↔
      p.inFlight ≠ [] ∧ (header = none → p.IsAsking none) := by
  have ho' := ho.of_moves (moves_step p (.changeContext header sha))
  have hi' := inFlight_changeContext_of_busy header sha hb
  have hh' := headerChanged_changeContext_of_busy header sha hb
  have hheader' := header_changeContext p header sha
  have hc' := (canRequest_changeContext p header sha).trans hc
  have hd' := (isDelegated_step p (.changeContext header sha)).trans hd
  generalize p.step (.changeContext header sha) = p' at *
  have hasking : p'.IsAsking header ↔ p.IsAsking header := by
    unfold IsAsking
    rw [hi']
  rw [hasking]
  cases header with
  | some h =>
    have hchanged : p'.headerChanged = true := by simpa [hh'] using hne
    constructor
    · rintro (⟨q, hq, -⟩ | hnext)
      · exact ⟨List.ne_nil_of_mem hq, nofun⟩
      · exact ⟨hi' ▸ hnext.1, nofun⟩
    · rintro ⟨hi, -⟩
      exact Or.inr (hheader' ▸ asksNext_of_changed ho' (hi'.symm ▸ hi) hchanged)
  | none =>
    -- for the edge the header has not changed, so that only the request under way counts
    have hnext := @not_asksNext_of_unchanged p' none ho' hd' hc' hh'
    constructor
    · intro h
      obtain ⟨q, hq, hnone⟩ := h.resolve_right hnext
      exact ⟨List.ne_nil_of_mem hq, fun _ => ⟨q, hq, hnone⟩⟩
    · exact fun ⟨_, h⟩ => Or.inl (h rfl)

/-- An edge that is not busy asks whenever a request is due and allowed. -/
theorem inFlight_check_of_idle (hb : p.isBusy = false) (k : Ticket) (r : Option Readiness) :
    (p.check k r).inFlight =
      if p.isDue && p.canRequest then p.inFlight ++ [p.request] else p.inFlight := by
  rw [check_of_idle hb]
  split <;> rfl

/-- Without a request under way, a change leads to one if it takes some header, or if a request is
due anyway. -/
theorem inFlight_changeContext_of_idle (hd : p.isDelegated = false) (hc : p.canRequest = true)
    (hne : header ≠ p.header) (hb : p.isBusy = false) (hi : p.inFlight = []) (sha : String) :
    (p.step (.changeContext header sha)).inFlight =
      if p.isStale || header.isSome then [(p.setContext header sha).request] else [] := by
  have hdue : (p.setContext header sha).isDue = (p.isStale || header.isSome) := by
    have hchanged : (header.isSome && header != p.header) = header.isSome := by
      rw [bne_iff_ne.mpr hne, Bool.and_true]
    rw [← hchanged]
    exact isDue_eq_isStale (p := p.setContext header sha) hd
  -- the future that the caller gets does not matter to the check
  have hcheck : (p.step (.changeContext header sha)).inFlight =
      if (p.setContext header sha).isDue && p.canRequest then
        p.inFlight ++ [(p.setContext header sha).request] else p.inFlight :=
    inFlight_check_of_idle
      (p := { p.setContext header sha with shared := p.shared.promise.1 }) hb ..
  rw [hcheck, hdue, hc, Bool.and_true, hi, List.nil_append]

/-- An edge that is not busy asks for a changed context, and for no context only if its answer is
stale. -/
theorem changeContext_asks_iff_of_idle (hd : p.isDelegated = false)
    (hc : p.canRequest = true) (hne : header ≠ p.header) (hb : p.isBusy = false)
    (hi : p.inFlight = []) (sha : String) :
    ((p.step (.changeContext header sha)).IsAsking header ∨
        (p.step (.changeContext header sha)).AsksNext header) ↔
      (header = none → p.isStale = true) := by
  have hflight := inFlight_changeContext_of_idle hd hc hne hb hi sha
  by_cases hasks : (p.isStale || header.isSome) = true
  · rw [if_pos hasks] at hflight
    refine iff_of_true (Or.inl ?_) ?_
    · exact ⟨_, hflight ▸ List.mem_singleton_self _, rfl⟩
    · rintro rfl
      simpa using hasks
  · rw [if_neg hasks] at hflight
    refine iff_of_false ?_ ?_
    · rintro (hasking | hnext)
      · exact not_isAsking_of_inFlight_eq_nil hflight hasking
      · exact hnext.1 hflight
    · intro hstale
      cases header with
      | some => simp at hasks
      | none => simp [hstale rfl] at hasks

/-- After a change to another header, a request that carries it is under way or follows, unless
the edge hangs; and if there is no header any more, only if a request without one is under way,
or none is and one is due. -/
theorem changeContext_asks_iff (ho : p.traffic.Orderly) (hd : p.isDelegated = false)
    (hc : p.canRequest = true) (hne : header ≠ p.header) (sha : String) :
    ((p.step (.changeContext header sha)).IsAsking header ∨
        (p.step (.changeContext header sha)).AsksNext header) ↔
      ¬ p.traffic.IsHung ∧
        (header = none → p.IsAsking none ∨ p.inFlight = [] ∧ p.isStale = true) := by
  cases hb : p.isBusy with
  | true =>
    rw [changeContext_asks_iff_of_busy ho hd hc hne hb]
    have hhung : ¬ p.traffic.IsHung ↔ p.inFlight ≠ [] := not_congr (and_iff_right hb)
    rw [hhung]
    refine and_congr_right fun hi => imp_congr_right fun _ => ?_
    simp [hi]
  | false =>
    have hi := (ho.idle hb).1
    have hhung : ¬ p.traffic.IsHung := fun h => Bool.false_ne_true (hb.symm.trans h.1)
    rw [changeContext_asks_iff_of_idle hd hc hne hb hi]
    have hnone : ¬ p.IsAsking none := not_isAsking_of_inFlight_eq_nil hi
    simp [hhung, hnone, show p.inFlight = [] from hi]

end FeatureFlags.Edge.Polling
