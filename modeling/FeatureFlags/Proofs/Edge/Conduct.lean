import FeatureFlags.Edge.Basic

/-!
# The conduct of edges

What is built on edges should not depend on what an edge is made of. Two things are asked of an
edge here. It keeps to its own futures (`Accountable`): it keeps every answer, and gives answers
only to futures that it owes one or has made itself. And it keeps its callers apart from what is
known of the features (`Discreet`): only the answer to a request changes the readiness, never the
call that asks for it.

Besides the calls of its client, events happen to an edge (`Eventful`): requests are answered or
fail, and time passes.
-/

set_option autoImplicit false

namespace FeatureFlags

namespace Edge

/-- An edge to which something can happen besides the calls of its client. -/
class Eventful (σ : Type) where
  /-- What can happen. -/
  Event : Type
  /-- What an event makes of the edge. -/
  happen : σ → Event → σ

/-- An edge that takes what is changed of what it shares. -/
class Sharing (σ : Type) [Edge σ] : Prop where
  shared_modifyShared (e : σ) (f : Shared → Shared) : shared (modifyShared e f) = f (shared e)

variable {σ : Type} [Edge σ]

/-! ### Futures -/

/-- The ticket of the next future. -/
def nextTicket (e : σ) : Ticket := (shared e).futures.nextTicket

/-- Whether a future was made between two states of an edge. -/
def IsNew (e e' : σ) (t : Ticket) : Prop := nextTicket e ≤ t ∧ t < nextTicket e'

/-- Whether an edge has kept to its own futures between two of its states. The first argument
says to which futures it owes an answer. -/
structure Dutiful (owed : σ → List Ticket) (e e' : σ) : Prop where
  /-- No future disappears. -/
  nextTicket_le : nextTicket e ≤ nextTicket e'
  /-- No answer changes. -/
  keeps : ∀ t r, result? e t = some r → result? e' t = some r
  /-- Answers are given to futures that wait for one, or are new. -/
  answers : ∀ t, result? e t = none → result? e' t ≠ none → t ∈ owed e ∨ IsNew e e' t
  /-- Only new futures come to wait for an answer. -/
  owes : ∀ t ∈ owed e', t ∈ owed e ∨ IsNew e e' t

/-- An edge that does nothing keeps to its own futures. -/
theorem Dutiful.refl (owed : σ → List Ticket) (e : σ) : Dutiful owed e e where
  nextTicket_le := Nat.le_refl _
  keeps _ _ h := h
  answers _ hbefore hafter := absurd hbefore hafter
  owes _ h := Or.inl h

/-- An edge that keeps to its own futures. -/
class Accountable (σ : Type) [Edge σ] [Eventful σ] extends Sharing σ where
  /-- The futures to which the edge owes an answer. -/
  owed : σ → List Ticket
  owed_modifyShared (e : σ) (f : Shared → Shared) : owed (modifyShared e f) = owed e
  dutiful_poll (e : σ) : Dutiful owed e (Edge.poll e).1
  dutiful_changeContext (e : σ) (header : Option String) (sha : String) :
    Dutiful owed e (Edge.changeContext e header sha).1
  dutiful_interval (e : σ) : Dutiful owed e (Edge.interval e).1
  dutiful_close (e : σ) : Dutiful owed e (Edge.close e)
  dutiful_happen (e : σ) (x : Eventful.Event σ) : Dutiful owed e (Eventful.happen e x)

/-- Whether the answers that were given, and those that are owed, belong to futures that were
made. -/
def IsTidy [Eventful σ] [Accountable σ] (e : σ) : Prop :=
  ∀ t, result? e t ≠ none ∨ t ∈ Accountable.owed e → t < nextTicket e

/-- Edges that keep to their own futures stay tidy. -/
theorem Dutiful.isTidy [Eventful σ] [Accountable σ] {e e' : σ}
    (h : Dutiful Accountable.owed e e') (he : IsTidy e) : IsTidy e' := by
  have hnew : ∀ t, t ∈ Accountable.owed e ∨ IsNew e e' t → t < nextTicket e' := by
    rintro t (howed | hnew)
    · exact Nat.lt_of_lt_of_le (he t (Or.inr howed)) h.nextTicket_le
    · exact hnew.2
  rintro t (hresult | howed)
  · cases hbefore : result? e t with
    | none => exact hnew t (h.answers t hbefore hresult)
    | some r =>
      exact Nat.lt_of_lt_of_le (he t (Or.inl (by simp [hbefore]))) h.nextTicket_le
  · exact hnew t (h.owes t howed)

/-- The future of somebody else gets no answer from an edge that keeps to its own. -/
theorem Dutiful.result?_eq [Eventful σ] [Accountable σ] {e e' : σ}
    (h : Dutiful Accountable.owed e e') {t : Ticket} (hmade : t < nextTicket e)
    (hforeign : t ∉ Accountable.owed e) : result? e' t = result? e t := by
  cases hbefore : result? e t with
  | some r => exact h.keeps t r hbefore
  | none =>
    cases hafter : result? e' t with
    | none => rfl
    | some r =>
      rcases h.answers t hbefore (by simp [hafter]) with howed | hnew
      · exact absurd howed hforeign
      · exact absurd hmade (Nat.not_lt.mpr hnew.1)

/-! ### Features -/

/-- An edge that learns of features from answers, and not from those who ask. -/
class Discreet (σ : Type) [Edge σ] [Eventful σ] extends Sharing σ where
  /-- Whether an event may change the features: an answer, or a failure. -/
  Informs : Eventful.Event σ → Prop
  repository_poll (e : σ) : repository (Edge.poll e).1 = repository e
  repository_changeContext (e : σ) (header : Option String) (sha : String) :
    repository (Edge.changeContext e header sha).1 = repository e
  repository_featureUsed (e : σ) : repository (Edge.featureUsed e) = repository e
  repository_interval (e : σ) : repository (Edge.interval e).1 = repository e
  repository_close (e : σ) : repository (Edge.close e) = repository e
  repository_happen (e : σ) (x : Eventful.Event σ) (h : ¬ Informs x) :
    repository (Eventful.happen e x) = repository e

/-- What is done to the shared part is done to its repository. -/
theorem repository_modifyShared [Sharing σ] (e : σ) (f : Shared → Shared) :
    repository (modifyShared e f) = (f (shared e)).repository :=
  congrArg Shared.repository (Sharing.shared_modifyShared e f)

/-- What is done to the repository is done to it. -/
theorem repository_modifyRepository [Sharing σ] (e : σ) (f : Repository → Repository) :
    repository (modifyRepository e f) = f (repository e) :=
  repository_modifyShared e _

end Edge

end FeatureFlags
