import FeatureFlags.Proofs.Edge.Conduct
import FeatureFlags.Proofs.Polling.Completion

/-!
# The conduct of polling edges

A polling edge owes an answer to those who wait for the request under way and for the one after
it. It answers nobody else (`answers_step`): those whom an event answers and those who wait
afterwards are those who waited before, and the caller who came with the event. Of features it
learns from answers and failures only (`repository_step`).
-/

set_option autoImplicit false

namespace FeatureFlags.Edge.Polling

/-- Whether an event is none of the calls of a client. -/
def Event.IsOwn : Event → Prop
  | respond _ | breakOff | modifyRepository _ | setClock _ => True
  | _ => False

instance : Eventful Polling where
  Event := { e : Event // e.IsOwn }
  happen p e := p.step e.1

/-! ### The record of answers -/

/-- Whether all answers that one edge has given were given by another. -/
def Extends (p p' : Polling) : Prop := p.shared.futures.answers <+: p'.shared.futures.answers

/-- Answers that are added later extend those that were added before. -/
theorem Extends.trans {p p' p'' : Polling} (h : p.Extends p') (h' : p'.Extends p'') :
    p.Extends p'' := List.IsPrefix.trans h h'

/-- Checking a caller takes no answer back. -/
theorem extends_check (p : Polling) (t : Ticket) (r : Option Readiness) :
    p.Extends (p.check t r) := by
  unfold Extends check
  simp only
  split <;> split <;> simp [Futures.answer]

/-- Checking callers takes no answer back. -/
theorem extends_foldl_check (ts : List Ticket) (r : Option Readiness) (p : Polling) :
    p.Extends (ts.foldl (fun p t => p.check t r) p) := by
  induction ts generalizing p with
  | nil => exact List.prefix_rfl
  | cons t ts ih => exact (extends_check p t r).trans (ih _)

/-- Answering those who waited takes no answer back. -/
theorem extends_release (p : Polling) : p.Extends p.release := by
  have hanswers : ∀ (ts : List Ticket) (f : Futures) (r : Readiness),
      f.answers <+: (f.answerAll ts r).answers := by
    intro ts
    induction ts with
    | nil => exact fun _ _ => List.prefix_rfl
    | cons t ts ih => exact fun f r => (List.prefix_append f.answers _).trans (ih (f.answer t r) r)
  exact hanswers ..

/-- The end of a request takes no answer back. -/
theorem extends_finish (p : Polling) : p.Extends p.finish := by
  rw [finish_eq_foldl]
  exact (extends_release p).trans (extends_foldl_check ..)

/-- An answer of the server takes no answer to a caller back. -/
theorem extends_receive (p : Polling) (response : Response) :
    p.Extends (p.receive response) := by
  rw [receive_eq_heed]
  split
  · exact List.prefix_rfl
  · exact extends_finish (p.heed response)

/-- No event changes an answer. -/
theorem extends_step (p : Polling) (e : Event) : p.Extends (p.step e) := by
  cases e with
  | poll => exact extends_check { p with shared := p.shared.promise.1 } ..
  | changeContext header sha =>
    exact extends_check { p.setContext header sha with shared := p.shared.promise.1 } ..
  | respond response =>
    cases hi : p.inFlight with
    | nil =>
      rw [step_of_isAnswer (e := .respond response) trivial hi]
      exact List.prefix_rfl
    | cons q rest =>
      rw [step_respond hi]
      exact extends_receive { p with inFlight := rest } response
  | breakOff =>
    cases hi : p.inFlight with
    | nil =>
      rw [step_of_isAnswer (e := .breakOff) trivial hi]
      exact List.prefix_rfl
    | cons q rest =>
      rw [step_breakOff hi]
      exact extends_finish
        { p with inFlight := rest, shared := p.shared.modifyRepository learnFailure }
  | close => exact extends_finish { p with mayRequest := false, inFlight := [] }
  | modifyRepository | setClock => exact List.prefix_rfl

/-! ### Those who are owed an answer -/

/-- Those who wait for a request. -/
def owed (p : Polling) : List Ticket := p.waiting ++ p.followUp

/-- Whom an event answers, and who waits after it. -/
theorem answers_step (p : Polling) (e : Event) :
    ∃ more, (p.step e).traffic.answered = p.traffic.answered ++ more ∧
      (more ++ (p.step e).owed).Perm (p.owed ++ (p.traffic.caller? e).toList) := by
  obtain ⟨more, hmore⟩ := (extends_step p e).map Prod.fst
  have hanswered : (p.step e).traffic.answered = p.traffic.answered ++ more := hmore.symm
  have hcallers := (moves_step p e).callers_perm
  unfold Traffic.callers at hcallers
  rw [hanswered, List.append_assoc, List.append_assoc] at hcallers
  exact ⟨more, hanswered, (List.perm_append_left_iff _).mp hcallers⟩

/-- The caller who comes with an event gets the next future. -/
theorem isNew_of_caller? {p : Polling} {e : Event} {t : Ticket}
    (ht : t ∈ (p.traffic.caller? e).toList) : IsNew p (p.step e) t := by
  rw [Option.mem_toList] at ht
  have hcall : e.IsCall := by
    by_contra hcall
    rw [Traffic.caller?_of_not_isCall hcall] at ht
    exact nomatch ht
  rw [Traffic.caller?_of_isCall hcall, Option.some_inj] at ht
  have hnext : (p.step e).traffic.nextTicket = t + 1 :=
    (congrArg Traffic.Front.nextTicket (moves_step p e).front_eq).trans
      ((Traffic.nextTicket_enter hcall).trans (congrArg (· + 1) ht))
  exact ⟨Nat.le_of_eq ht, Nat.lt_of_lt_of_eq (Nat.lt_succ_self t) hnext.symm⟩

/-- No ticket is given out twice. -/
theorem nextTicket_le_step (p : Polling) (e : Event) :
    p.traffic.nextTicket ≤ (p.step e).traffic.nextTicket := by
  have hfront := congrArg Traffic.Front.nextTicket (moves_step p e).front_eq
  refine Nat.le_trans ?_ (Nat.le_of_eq hfront.symm)
  cases e with
  | poll | changeContext => exact Nat.le_succ _
  | _ => exact Nat.le_refl _

/-- Whatever happens to a polling edge, it keeps to its own futures. -/
theorem dutiful_step (p : Polling) (e : Event) : Dutiful owed p (p.step e) := by
  obtain ⟨more, hanswered, hperm⟩ := answers_step p e
  have hmem : ∀ t ∈ more ++ (p.step e).owed, t ∈ p.owed ∨ IsNew p (p.step e) t := by
    intro t ht
    rcases List.mem_append.mp (hperm.mem_iff.mp ht) with howed | hcaller
    · exact Or.inl howed
    · exact Or.inr (isNew_of_caller? hcaller)
  constructor
  case nextTicket_le => exact nextTicket_le_step p e
  case keeps => exact fun t r ht => Futures.result?_of_prefix (extends_step p e) ht
  case answers =>
    intro t hbefore hafter
    have hnot : t ∉ p.traffic.answered := (result?_eq_none_iff p t).mp hbefore
    have ht : t ∈ (p.step e).traffic.answered := by
      by_contra hnone
      exact hafter ((result?_eq_none_iff (p.step e) t).mpr hnone)
    rw [hanswered, List.mem_append] at ht
    exact hmem t (List.mem_append_left _ (ht.resolve_left hnot))
  case owes => exact fun t ht => hmem t (List.mem_append_right _ ht)

instance : Accountable Polling where
  owed := owed
  shared_modifyShared _ _ := rfl
  owed_modifyShared _ _ := rfl
  dutiful_poll p := dutiful_step p .poll
  dutiful_changeContext p header sha := dutiful_step p (.changeContext header sha)
  dutiful_interval p := .refl owed p
  dutiful_close p := dutiful_step p .close
  dutiful_happen p e := dutiful_step p e.1

/-- An edge that starts afresh owes nothing, and has answered nobody who did not come. -/
theorem IsFresh.isTidy {p : Polling} (h : p.IsFresh) : IsTidy p := by
  have horderly := h.orderly
  rintro t (hresult | howed)
  · refine horderly.answered_lt t ?_
    by_contra hnone
    exact hresult ((result?_eq_none_iff p t).mpr hnone)
  · exact (horderly.pending t howed).1

/-! ### The features -/

/-- Whether an event may change the features. -/
def Event.Informs : Event → Prop
  | respond _ | breakOff | modifyRepository _ => True
  | _ => False

/-- What brings no news leaves the repository alone. -/
theorem repository_step {p : Polling} {e : Event} (h : ¬ e.Informs) :
    (p.step e).shared.repository = p.shared.repository := by
  refine (congrArg Holdings.repository (holdings_step p e)).trans ?_
  cases e with
  | respond | breakOff | modifyRepository => exact absurd trivial h
  | _ => rfl

instance : Discreet Polling where
  Informs e := e.1.Informs
  shared_modifyShared _ _ := rfl
  repository_poll _ := repository_step (e := .poll) not_false
  repository_changeContext _ header sha :=
    repository_step (e := .changeContext header sha) not_false
  repository_featureUsed _ := repository_step (e := .poll) not_false
  repository_interval _ := rfl
  repository_close _ := repository_step (e := .close) not_false
  repository_happen _ _ := repository_step

end FeatureFlags.Edge.Polling
