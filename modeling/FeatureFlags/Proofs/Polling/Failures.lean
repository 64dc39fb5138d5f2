import FeatureFlags.Proofs.Polling.Queues
import FeatureFlags.Proofs.Repository.History
import FeatureFlags.Proofs.Repository.Journal
import FeatureFlags.Proofs.Repository.Readiness

/-!
# Requests that bring no features

A request can end in many ways without features: the server refuses to answer this client, has
trouble, has nothing new, or sends what cannot be read, or it cannot be reached. All of them go
through different parts of an edge, which look after callers and may send the next request. What
they have in common is that they spare the repository (`Spared`): readers find what was there
before, and nobody is told of a feature or a batch. Only the readiness can change, and only to
failed; features that could be relied on still can, unless the server refuses this client.

Calls, the end of an edge and the time that passes spare the repository as well, so that the main
statement is about whole runs without features.
-/

set_option autoImplicit false

namespace FeatureFlags

namespace Repository

/-- The calls to those who follow entries, all features or batches. -/
def featureCalls (r : Repository) : List Call :=
  r.journal.calls.filter fun c => c.audience ≠ .readiness

/-- What becomes of a repository without features. `refused` says whether the server refused to
answer. -/
structure Spared (refused : Bool) (r r' : Repository) : Prop where
  /-- Only the readiness and the journal can differ. -/
  frame : r' = { r with readiness := r'.readiness, journal := r'.journal }
  /-- Nobody is told of a feature or a batch. -/
  calls : r'.featureCalls = r.featureCalls
  /-- The readiness is as before, or failed. -/
  readiness : r'.readiness = r.readiness ∨ r'.readiness = .failed
  /-- What could be relied on still can, if the server did not refuse to answer. -/
  ready : refused = false → r.readiness = .ready → r'.readiness = .ready

namespace Spared

variable {b b' : Bool} {r r' r'' : Repository}

/-- A repository that stays as it is was spared. -/
theorem refl (b : Bool) (r : Repository) : Spared b r r where
  frame := rfl
  calls := rfl
  readiness := Or.inl rfl
  ready _ h := h

/-- A repository that is spared twice is spared. -/
theorem trans (h : Spared b r r') (h' : Spared b' r' r'') : Spared (b || b') r r'' where
  frame := by
    rw [h'.frame, h.frame]
  calls := h'.calls.trans h.calls
  readiness := by
    rcases h'.readiness with hsame | hfailed
    · exact h.readiness.imp hsame.trans hsame.trans
    · exact Or.inr hfailed
  ready hrefused hready := by
    rw [Bool.or_eq_false_iff] at hrefused
    exact h'.ready hrefused.2 (h.ready hrefused.1 hready)

/-- Errors that are logged spare a repository. -/
theorem logErrors (r : Repository) (n : Nat) : Spared false r (r.logErrors n) where
  frame := rfl
  calls := rfl
  readiness := Or.inl rfl
  ready _ h := h

end Spared

/-- Those who follow the readiness are told, and nobody else. -/
theorem featureCalls_announceReadiness (r : Repository) :
    r.announceReadiness.featureCalls = r.featureCalls := by
  cases ho : r.isClosed with
  | true =>
    have hsame : r.announceReadiness = r := by simp [announceReadiness, announce, ho]
    rw [hsame]
  | false =>
    have hround : ∀ c ∈ Journal.round .readiness (r.listeners .readiness) (.readiness r.readiness),
        ¬ (decide (c.audience ≠ .readiness) = true) := by
      intro c hc
      simp [Journal.audience_of_mem_round hc]
    unfold featureCalls announceReadiness
    rw [calls_announce ho, List.filter_append, List.filter_eq_nil_iff.mpr hround, List.append_nil]

/-- A failure spares what it does not find ready, and is a refusal for what it does. -/
theorem spared_fail {b : Bool} {r : Repository} (h : b = false → r.readiness ≠ .ready) :
    Spared b r r.fail where
  frame := by
    unfold fail announceReadiness announce
    split <;> rfl
  calls := featureCalls_announceReadiness { r with readiness := .failed }
  readiness := Or.inr (readiness_fail r)
  ready hb hready := absurd hready (h hb)

end Repository

namespace Edge.Polling

open Repository (Spared)

/-! ### One event -/

/-- Learning of a failure spares a repository. -/
theorem spared_learnFailure (r : Repository) : Spared false r (learnFailure r) := by
  have hlog := Spared.logErrors r 1
  unfold learnFailure
  split
  · exact hlog
  · next hready => exact hlog.trans (Repository.spared_fail fun _ => hready)

/-- An answer without features spares the repository, whatever else is in it. -/
theorem spared_learn {response : Response} (h : delivered? response = none) (r : Repository) :
    Spared (isRejection response.status) r (learn response r) := by
  unfold learn
  rw [h]
  simp only
  split
  · next hsuccess =>
    rw [isRejection_of_isSuccess hsuccess]
    exact (Spared.logErrors r 1).trans (spared_learnFailure _)
  · split
    · next hrejection => exact Repository.spared_fail fun hb => nomatch hb.symm.trans hrejection
    · exact .refl _ r

namespace Event

/-- Whether an event comes without features, and is nobody else's change of the repository. -/
def IsBarren : Event → Prop
  | respond response => delivered? response = none
  | modifyRepository _ => False
  | _ => True

/-- Whether the server refuses to answer this client. -/
def isRefusal : Event → Bool
  | respond response => isRejection response.status
  | _ => false

end Event

/-- An event without features spares the repository. -/
theorem spared_step (p : Polling) {e : Event} (h : e.IsBarren) :
    Spared e.isRefusal p.shared.repository (p.step e).shared.repository := by
  have hheld : (p.step e).shared.repository = (p.heldAfter e).repository :=
    congrArg Holdings.repository (holdings_step p e)
  rw [hheld]
  cases e with
  | respond response =>
    simp only [heldAfter]
    split
    · exact .refl _ _
    · exact spared_learn h _
  | breakOff =>
    simp only [heldAfter]
    split
    · exact .refl _ _
    · exact spared_learnFailure _
  | modifyRepository => exact h.elim
  | _ => exact .refl _ _

/-! ### Runs -/

/-- Events without features spare the repository, and features that could be relied on before still
can unless one of the events is a refusal. -/
theorem spared_run (p : Polling) {events : List Event} (h : ∀ e ∈ events, e.IsBarren) :
    Spared (events.any Event.isRefusal) p.shared.repository
      (p.run events).shared.repository := by
  induction events using List.reverseRecOn with
  | nil => exact .refl _ _
  | append_singleton es e ih =>
    rw [List.forall_mem_append] at h
    rw [run_concat, List.any_append, List.any_cons, List.any_nil, Bool.or_false]
    exact (ih h.1).trans (spared_step _ (h.2 e (List.mem_singleton_self e)))

/-- As long as no request brings features, whatever the answers are and whether there are any, the
repository stays as it is but for its readiness and its journal, and nobody is told of a feature or
a batch. The readiness stays as it is or becomes failed, and a repository that is ready stays so
unless the server refuses to answer. -/
theorem failed_answers_spare_features (p : Polling) (events : List Event)
    (h : ∀ e ∈ events, e.IsBarren) :
    let before := p.shared.repository
    let after := (p.run events).shared.repository
    after = { before with readiness := after.readiness, journal := after.journal } ∧
      after.featureCalls = before.featureCalls ∧
      (after.readiness = before.readiness ∨ after.readiness = .failed) ∧
      (before.readiness = .ready →
        (∀ response, .respond response ∈ events → isRejection response.status = false) →
          after.readiness = .ready) := by
  intro before after
  have hspared := spared_run p h
  refine ⟨hspared.frame, hspared.calls, hspared.readiness, fun hready hkept => ?_⟩
  refine hspared.ready ?_ hready
  rw [List.any_eq_false]
  intro e he
  cases e with
  | respond response => simp [Event.isRefusal, hkept response he]
  | _ => exact Bool.false_ne_true

/-! ### A sample -/

/-- An edge whose client knows a flag, and has somebody who follows all features. -/
def sampleInformed (flag : FeatureState) : Polling :=
  let repository := Repository.new.listen .updates ⟨"u", false⟩
  { sampleEdge with shared := ⟨repository.updateFeatures [flag] false, .empty, ⟨0⟩⟩ }

/-- The server has trouble, sends what cannot be read, and cannot be reached. -/
def sampleTrouble : List Event :=
  [sampleChange "a", .respond ⟨503, none, none, []⟩, sampleChange "b",
    .respond ⟨200, none, none, [0x78]⟩, sampleChange "c", .breakOff]

/-- The flag stays what it is, and can be relied on until the server refuses to answer. -/
theorem failed_answers_spare_flag :
    let flag := Repository.sampleFlag 1 "a" 1
    let informed := sampleInformed flag
    let refused := sampleTrouble ++ [sampleChange "d", .respond ⟨401, none, none, []⟩]
    let troubled := (informed.run sampleTrouble).shared.repository
    let failed := (informed.run refused).shared.repository
    (∀ e ∈ refused, e.IsBarren) ∧ troubled.readiness = .ready ∧ failed.readiness = .failed ∧
      failed.stateOf? "a" = some flag ∧
      failed.featureCalls = informed.shared.repository.featureCalls := by
  intro flag informed refused troubled failed
  have hbarren : ∀ e ∈ refused, e.IsBarren := by
    simp only [refused, sampleTrouble, sampleChange, List.forall_mem_append,
      List.forall_mem_cons, Event.IsBarren, List.not_mem_nil, false_implies, implies_true, and_true,
      true_and]
    decide
  have htrouble : ∀ e ∈ sampleTrouble, e.IsBarren := fun e he =>
    hbarren e (List.mem_append_left _ he)
  obtain ⟨-, -, -, hready⟩ := failed_answers_spare_features informed sampleTrouble htrouble
  obtain ⟨hframe, hcalls, -, -⟩ := failed_answers_spare_features informed refused hbarren
  refine ⟨hbarren, hready (by decide) ?_, by decide +kernel, ?_, hcalls⟩
  · intro response hresponse
    simp only [sampleTrouble, sampleChange, List.mem_cons, reduceCtorEq, Event.respond.injEq,
      List.not_mem_nil, or_false, false_or] at hresponse
    rcases hresponse with rfl | rfl <;> rfl
  · exact (congrArg (fun r => r.stateOf? "a") hframe).trans rfl

end Edge.Polling

end FeatureFlags
