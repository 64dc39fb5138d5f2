import Mathlib.Data.List.Induction
import FeatureFlags.Edge.Event
import FeatureFlags.Proofs.Repository.Readiness
import FeatureFlags.Proofs.Repository.Steps

/-!
# What a closed repository still does

A closed repository takes nothing in, finds nothing and calls nobody, whatever is done to it and
whatever events come late. The readiness is another matter: a failure, and the message that the
server has no features, set it without asking whether the repository was closed. `closed_step`
says this of one operation, and an event of the protocol is a list of operations
(`applyEvent?_eq`).

The main statement is about every history with a close in it. All that was said of a closed
repository holds for good, but the readiness stays `notReady` exactly if the last word on it since
the first close, if there was one, was that the repository is not ready.
-/

set_option autoImplicit false

namespace FeatureFlags.Repository

open Edge (EventKind applyEvent?)
open Json (Document)

/-! ### Events as operations -/

/-- The operations that the text of an event comes to; none if it cannot be read. -/
def eventOperations? (kind : EventKind) (data : String) : Option (List Operation) :=
  match kind with
  | .features => do
    let document ← Document.ofText? data
    let items ← FeatureState.decodeList .text document
    some [.logErrors (Lenient.countMalformed items), .updateAll (Lenient.parsedOnly items) false]
  | .feature => do
    let document ← Document.ofText? data
    let s ← FeatureState.decode .text document
    some [.update s false]
  | .deleteFeature => do
    let document ← Document.ofText? data
    let s ← FeatureState.decode .text document
    some [.delete s]
  | .failure => some [.fail]
  | .ack | .bye | .config => some []

/-- An event that can be read does what its operations do. -/
theorem applyEvent?_eq (kind : EventKind) (data : String) (r : Repository) :
    applyEvent? kind data r = (eventOperations? kind data).map r.run := by
  cases kind with
  | features =>
    unfold applyEvent? eventOperations?
    cases Document.ofText? data with
    | none => rfl
    | some document =>
      cases hitems : FeatureState.decodeList .text document <;> simp [hitems, step]
  | feature | deleteFeature =>
    unfold applyEvent? eventOperations?
    cases Document.ofText? data with
    | none => rfl
    | some document =>
      cases hstate : FeatureState.decode .text document <;> simp [hstate, step]
  | _ => rfl

/-- What is done to a repository, by its users or by events of the protocol. -/
inductive Deed where
  /-- An operation is done. -/
  | operate (op : Operation)
  /-- The text of an event is applied; one that cannot be read does nothing. -/
  | applyEvent (kind : EventKind) (data : String)
  /-- The repository is told of an event, without its text. -/
  | notify (kind : EventKind)

namespace Deed

/-- Does a deed. -/
def perform (r : Repository) : Deed → Repository
  | operate op => r.step op
  | applyEvent kind data => (applyEvent? kind data r).getD r
  | notify kind => Edge.notify kind r

/-- A deed as a list of operations. -/
def operations : Deed → List Operation
  | operate op => [op]
  | applyEvent kind data => (eventOperations? kind data).getD []
  | notify kind => if kind = .failure then [.fail] else []

/-- A deed does what its operations do. -/
theorem perform_eq_run (r : Repository) (d : Deed) : d.perform r = r.run d.operations := by
  cases d with
  | operate op => rfl
  | applyEvent kind data =>
    show (applyEvent? kind data r).getD r = r.run ((eventOperations? kind data).getD [])
    rw [applyEvent?_eq]
    cases eventOperations? kind data <;> rfl
  | notify kind => cases kind <;> rfl

end Deed

/-- Does deeds from left to right. -/
def performAll (r : Repository) (ds : List Deed) : Repository := ds.foldl Deed.perform r

/-- Deeds do what their operations do one after the other. -/
theorem performAll_eq_run (r : Repository) (ds : List Deed) :
    r.performAll ds = r.run (ds.flatMap Deed.operations) := by
  induction ds generalizing r with
  | nil => rfl
  | cons d ds ih =>
    rw [List.flatMap_cons, run_append, ← Deed.perform_eq_run]
    exact ih (d.perform r)

/-! ### Operations on a closed repository -/

/-- What an operation says of the readiness, be the repository open or closed. -/
def verdict? : Operation → Option Readiness
  | .fail => some .failed
  | .notReady => some .notReady
  | .markEmpty => some .ready
  | _ => none

/-- The last word on the readiness. -/
def lastVerdict? (ops : List Operation) : Option Readiness := (ops.filterMap verdict?).getLast?

/-- The last operation has the last word if it says anything of the readiness. -/
theorem lastVerdict?_concat (ops : List Operation) (op : Operation) :
    lastVerdict? (ops ++ [op]) = (verdict? op).or (lastVerdict? ops) := by
  unfold lastVerdict?
  rw [List.filterMap_append, List.getLast?_append]
  cases hv : verdict? op <;> simp [hv]

/-- What a closed repository shows after operations with a last word on the readiness. -/
structure StaysClosed (r : Repository) (verdict : Option Readiness) (r' : Repository) : Prop where
  isClosed : r'.isClosed = true
  stateOf?_eq : ∀ key, r'.stateOf? key = r.stateOf? key
  calls_eq : r'.journal.calls = r.journal.calls
  readiness_eq : r'.readiness = verdict.getD r.readiness

/-- A closed repository tells nobody anything. -/
theorem announce_of_closed {r : Repository} (hc : r.isClosed = true) (a : Audience)
    (notice : Notice) : r.announce a notice = r := by
  unfold announce
  rw [if_pos hc]

/-- A closed repository deletes nothing. -/
theorem deleteFeature_of_closed {r : Repository} (hc : r.isClosed = true) (s : FeatureState) :
    r.deleteFeature s = r := by
  have hrefused : ¬ r.Accepts { s with value := none } false := by
    intro ha
    exact Bool.false_ne_true (ha.1.symm.trans hc)
  rw [deleteFeature_of_not_accepts hrefused, updateFeature_of_closed _ false hc]

/-- No operation makes a closed repository call anybody, and three of them set its readiness. -/
theorem closed_step {r : Repository} (hc : r.isClosed = true) (op : Operation) :
    StaysClosed r (verdict? op) (r.step op) := by
  have hsame : ∀ r', r' = r → StaysClosed r none r' := by
    rintro r' rfl
    exact ⟨hc, fun _ => rfl, rfl, rfl⟩
  -- whoever would tell the readiness finds nobody to tell
  have hset : ∀ v, StaysClosed r (some v)
      ({ r with readiness := v } : Repository).announceReadiness := by
    intro v
    have hsilent : ({ r with readiness := v } : Repository).announceReadiness =
        { r with readiness := v } := announce_of_closed (r := { r with readiness := v }) hc ..
    rw [hsilent]
    exact ⟨hc, fun _ => rfl, rfl, rfl⟩
  have hlisteners : ∀ a f, StaysClosed r none (r.modifyListeners a f) := by
    intro a f
    have hstate := (alike_modifyListeners r a f).stateOf?_eq
    cases a <;> exact ⟨hc, hstate, rfl, rfl⟩
  cases op with
  | update s force => exact hsame _ (congrArg Prod.fst (updateFeature_of_closed s force hc))
  | updateAll states force => exact hsame _ (updateFeatures_of_closed hc states force)
  | delete s => exact hsame _ (deleteFeature_of_closed hc s)
  | getFeature key =>
    have hcalls : (r.getFeature key).1.journal.calls = r.journal.calls := by
      unfold getFeature obtain
      cases r.lookup? key <;> simp only <;> split <;> rfl
    have hquiet := quiet_getFeature r key
    exact ⟨hquiet.isClosed_eq.trans hc, hquiet.stateOf?_eq, hcalls, readiness_getFeature r key⟩
  | fail => exact hset .failed
  | markEmpty => exact hset .ready
  | notReady =>
    show StaysClosed r (some .notReady) r.notReady
    unfold notReady
    simp only
    split
    · exact ⟨hc, fun _ => rfl, rfl, rfl⟩
    · exact hset .notReady
  | close => exact hsame _ (close_of_closed hc)
  | listen a listener =>
    have hstill : (r.modifyListeners a fun l => l.add listener).isClosed = true :=
      (hlisteners a _).isClosed
    show StaysClosed r none (r.listen a listener)
    unfold listen
    simp only [hstill, Bool.not_true, Bool.and_false, Bool.false_eq_true, if_false]
    exact hlisteners a _
  | cancel a id => exact hlisteners a fun l => l.cancel id
  | intercept | logErrors => exact ⟨hc, fun _ => rfl, rfl, rfl⟩

/-- What one operation does to a closed repository, a run of them does. -/
theorem closed_run {r : Repository} (hc : r.isClosed = true) (ops : List Operation) :
    StaysClosed r (lastVerdict? ops) (r.run ops) := by
  induction ops using List.reverseRecOn with
  | nil => exact ⟨hc, fun _ => rfl, rfl, rfl⟩
  | append_singleton ops op ih =>
    have hstep := closed_step ih.isClosed op
    rw [run_append, run_cons, run_nil, lastVerdict?_concat]
    refine ⟨hstep.isClosed, ?_, hstep.calls_eq.trans ih.calls_eq, ?_⟩
    · intro key
      rw [hstep.stateOf?_eq, ih.stateOf?_eq]
    · rw [hstep.readiness_eq, ih.readiness_eq]
      cases verdict? op <;> rfl

/-! ### Histories with a close -/

/-- The operations after the first close. -/
def sinceClose : List Operation → List Operation
  | [] => []
  | .close :: ops => ops
  | _ :: ops => sinceClose ops

/-- Whether the last word on the readiness since the first close, if there was one, is that the
repository is not ready. -/
def StaysUnready (ops : List Operation) : Prop :=
  ∀ v, lastVerdict? (sinceClose ops) = some v → v = .notReady

/-- An operation before the close is not one after it. -/
theorem sinceClose_cons_of_ne {op : Operation} (h : op ≠ .close) (ops : List Operation) :
    sinceClose (op :: ops) = sinceClose ops := by
  cases op with
  | close => exact absurd rfl h
  | _ => rfl

/-- A repository that is closed is closed. -/
theorem isClosed_close (r : Repository) : r.close.isClosed = true := by
  unfold close
  split
  · next hc => exact hc
  · rfl

/-- A repository that was open at first and is closed in the end was closed in between, and the
rest of the operations were done to it then. -/
theorem exists_run_sinceClose {r : Repository} {ops : List Operation} (h : Coherent r)
    (ho : r.isClosed = false) (hc : (r.run ops).isClosed = true) :
    ∃ s : Repository, s.isClosed = false ∧ r.run ops = s.close.run (sinceClose ops) := by
  induction ops generalizing r with
  | nil => exact absurd (ho.symm.trans hc) Bool.false_ne_true
  | cons op ops ih =>
    rw [run_cons] at hc ⊢
    by_cases hop : op = .close
    · subst hop
      exact ⟨r, ho, rfl⟩
    · rw [sinceClose_cons_of_ne hop]
      exact ih (h.run [op]) ((isClosed_step h hop).trans ho) hc

/-- The readiness of a closed repository, by what was said since it was closed. -/
theorem readiness_after_of_closed {ops : List Operation} (hc : (after ops).isClosed = true) :
    (after ops).readiness = (lastVerdict? (sinceClose ops)).getD .notReady := by
  obtain ⟨s, ho, hrun⟩ := exists_run_sinceClose coherent_new rfl hc
  have hstart : s.close.readiness = .notReady := by simp [readiness_close, ho]
  have hstays := closed_run (isClosed_close s) (sinceClose ops)
  unfold after
  rw [hrun, hstays.readiness_eq, hstart]

/-- Nothing is held under any key of a closed repository. -/
theorem stateOf?_after_of_closed {ops : List Operation} (hc : (after ops).isClosed = true)
    (key : String) : (after ops).stateOf? key = none := by
  obtain ⟨s, ho, hrun⟩ := exists_run_sinceClose coherent_new rfl hc
  have hstart : s.close.stateOf? key = none := by
    unfold stateOf?
    rw [lookup?_close ho]
    rfl
  have hstays := closed_run (isClosed_close s) (sinceClose ops)
  unfold after
  rw [hrun, hstays.stateOf?_eq, hstart]

/-- After a close, and whatever was done before and is done after it, nothing is held or found,
every delivery is refused and nobody is called. But the readiness is that of the last failure or
message about it, if there was one since the first close. -/
theorem close_is_final_iff (before : List Operation) (later : List Deed) :
    let r := (after before).close.performAll later
    (r.readiness = .notReady ↔
        StaysUnready (before ++ .close :: later.flatMap Deed.operations)) ∧
      (∀ key, ((r.getFeature key).1.entry (r.getFeature key).2).state = none) ∧
      (∀ id, r.featureById? id = none) ∧
      (∀ s force, r.updateFeature s force = (r, false)) ∧
      (∀ states force, r.updateFeatures states force = r) ∧
      (∀ s, r.deleteFeature s = r) ∧
      r.journal.calls = (after before).close.journal.calls := by
  intro r
  have hrun : r = (after before).close.run (later.flatMap Deed.operations) :=
    performAll_eq_run _ later
  have hstays := closed_run (isClosed_close (after before)) (later.flatMap Deed.operations)
  rw [← hrun] at hstays
  have hc : r.isClosed = true := hstays.isClosed
  -- the whole history, in which the close may not be the first one
  have hhistory : r = after (before ++ .close :: later.flatMap Deed.operations) := by
    rw [hrun, after_append, run_cons]
    rfl
  refine ⟨?_, fun key => ?_, fun id => ?_, ?_, ?_, ?_, hstays.calls_eq⟩
  · rw [hhistory] at hc ⊢
    rw [readiness_after_of_closed hc]
    unfold StaysUnready
    cases lastVerdict? (sinceClose (before ++ .close :: later.flatMap Deed.operations)) <;> simp
  · rw [state_getFeature]
    rw [hhistory] at hc ⊢
    exact stateOf?_after_of_closed hc key
  · rw [hhistory] at hc ⊢
    exact (coherent_after _).closed hc id
  · exact fun s force => updateFeature_of_closed s force hc
  · exact fun states force => updateFeatures_of_closed hc states force
  · exact fun s => deleteFeature_of_closed hc s

/-- A failure that is reported late makes a closed repository failed. -/
theorem late_failure_after_close :
    ¬ ∀ (before : List Operation) (later : List Deed),
      ((after before).close.performAll later).readiness = .notReady := by
  intro h
  exact absurd (h [] [.notify .failure]) (by decide)

end FeatureFlags.Repository
