import FeatureFlags.Context.Basic
import FeatureFlags.Proofs.Polling.Succession
import FeatureFlags.Proofs.Repository.Readiness

/-!
# Builds of a context that a server evaluates

A build after a change of the attributes takes back that the features can be relied on, for they
were evaluated for somebody else. They can be relied on again when the server has answered for the
present header, so that a request that carries it is to be under way, or to follow the one that
is.

The context and its edge both remember the header of the last build, and agree on it
(`Sound.lastHeader_eq`). They do not agree on what a change is: for an edge it is no change when
the header goes. The main statement says after which builds a request is in sight: after all that
changed the header to another one, unless the edge hangs, but after one that took the header away
only if there would be one without it.
-/

set_option autoImplicit false

namespace FeatureFlags.Edge.Polling

/-- Whether an event leaves the header of the context to others. -/
def Event.LeavesContext : Event → Prop
  | .changeContext .. => False
  | _ => True

/-- An event that leaves the context alone leaves its header. -/
theorem header_step {p : Polling} {e : Event} (h : e.LeavesContext) :
    (p.step e).header = p.header := by
  have hheader : (p.traffic.enter e).header = p.header := by
    cases e with
    | changeContext => exact h.elim
    | _ => rfl
  exact (congrArg Traffic.Front.header (moves_step p e).front_eq).trans hheader

end FeatureFlags.Edge.Polling

namespace FeatureFlags.Context

open Edge (Polling)

/-- A context, and the edge it is built on. -/
structure Served where
  /-- The context. -/
  context : Context
  /-- The edge. -/
  edge : Polling

/-- What can happen to a context and its edge. -/
inductive Act where
  /-- The attributes are changed. -/
  | change (f : Attributes → Attributes)
  /-- The context is built. -/
  | build
  /-- A feature is read. -/
  | read (vars : Variables) (now : Rollout.Moment) (key : String)
  /-- Something happens to the edge. -/
  | meanwhile (e : Polling.Event) (h : e.LeavesContext)

namespace Served

/-- What happens to a context and its edge. -/
def step (s : Served) : Act → Served
  | .change f => { s with context := s.context.modify f }
  | .build => ⟨(s.context.build s.edge).1, (s.context.build s.edge).2.1⟩
  | .read vars now key => { s with edge := (s.context.feature s.edge vars now key).1 }
  | .meanwhile e _ => { s with edge := s.edge.step e }

/-- What a run makes of a context and its edge. -/
def run (s : Served) (acts : List Act) : Served := acts.foldl step s

/-- A run ends with its last act. -/
@[simp] theorem run_concat (s : Served) (acts : List Act) (a : Act) :
    s.run (acts ++ [a]) = (s.run acts).step a := by
  simp [run]

/-- Whether nothing has happened yet to a context that the server evaluates, and to an edge that
asks when it is told to. -/
def IsFresh (s : Served) : Prop :=
  s.context = .new true ∧ s.edge.IsFresh ∧ s.edge.isDelegated = false

/-- Whether a build takes back that features can be relied on. -/
def Unsettles (s : Served) : Prop := s.context.lastHeader ≠ s.context.attributes.header

/-! ### What a context and its edge agree on -/

/-- What is true of a context and its edge in every run. -/
structure Sound (s : Served) : Prop where
  /-- The server evaluates the context. -/
  isServerEvaluated : s.context.isServerEvaluated = true
  /-- The header of the last build is that of the edge. -/
  lastHeader_eq : s.context.lastHeader = s.edge.header
  /-- The edge asks when it is told to. -/
  isDelegated : s.edge.isDelegated = false
  /-- The queues of the edge are in order. -/
  orderly : s.edge.traffic.Orderly

/-- The edge when a build has taken back what has to be taken back. -/
def unsettled (s : Served) : Polling :=
  if s.context.lastHeader = s.context.attributes.header then s.edge
  else s.edge.step (.modifyRepository Repository.notReady)

variable {s : Served}

/-- A build is a change of the context of the edge. -/
theorem step_build (h : s.context.isServerEvaluated = true) :
    s.step .build =
      ⟨{ s.context with lastHeader := s.context.attributes.header },
        s.unsettled.step
          (.changeContext s.context.attributes.header (digest s.context.attributes.header))⟩ := by
  simp only [step, build]
  rw [if_pos h]
  rfl

/-- Whoever reads a feature polls the edge, and may leave a new entry for the feature. -/
theorem step_read (s : Served) (vars : Variables) (now : Rollout.Moment) (key : String) :
    ∃ r, s.step (.read vars now key) =
      (s.step (.meanwhile .poll trivial)).step
        (.meanwhile (.modifyRepository fun _ => r) trivial) :=
  ⟨_, rfl⟩

/-- What happens to the edge in between leaves the context and the edge of one mind. -/
theorem Sound.meanwhile (h : s.Sound) {e : Polling.Event} (he : e.LeavesContext) :
    (s.step (.meanwhile e he)).Sound where
  isServerEvaluated := h.isServerEvaluated
  lastHeader_eq := h.lastHeader_eq.trans (Polling.header_step he).symm
  isDelegated := (Polling.isDelegated_step ..).trans h.isDelegated
  orderly := h.orderly.of_moves (Polling.moves_step ..)

/-- A build leaves the context and the edge of one mind. -/
theorem Sound.build (h : s.Sound) : (s.step .build).Sound := by
  obtain ⟨htraffic, hd⟩ : s.unsettled.traffic = s.edge.traffic ∧
      s.unsettled.isDelegated = false := by
    unfold unsettled
    split <;> exact ⟨rfl, h.isDelegated⟩
  rw [step_build h.isServerEvaluated]
  constructor
  case isServerEvaluated => exact h.isServerEvaluated
  case lastHeader_eq => exact (Polling.header_changeContext ..).symm
  case isDelegated => exact (Polling.isDelegated_step ..).trans hd
  case orderly =>
    refine Polling.Traffic.Orderly.of_moves ?_ (Polling.moves_step ..)
    exact htraffic ▸ h.orderly

/-- Nothing that happens makes a context and its edge disagree. -/
theorem Sound.step (h : s.Sound) (a : Act) : (s.step a).Sound := by
  cases a with
  | change f => exact ⟨h.isServerEvaluated, h.lastHeader_eq, h.isDelegated, h.orderly⟩
  | build => exact h.build
  | read vars now key =>
    obtain ⟨r, hr⟩ := s.step_read vars now key
    rw [hr]
    exact (h.meanwhile _).meanwhile _
  | meanwhile e he => exact h.meanwhile he

/-- In every run the context and the edge are of one mind. -/
theorem sound_run (hs : s.IsFresh) (acts : List Act) : (s.run acts).Sound := by
  induction acts using List.reverseRecOn with
  | nil =>
    obtain ⟨hcontext, hedge, hd⟩ := hs
    refine ⟨?_, ?_, hd, hedge.orderly⟩
    · exact congrArg Context.isServerEvaluated hcontext
    · obtain ⟨shared, edgeUrl, apiKeys, interval, isDelegated, hnew, -⟩ := hedge
      exact (congrArg Context.lastHeader hcontext).trans (congrArg Polling.header hnew).symm
  | append_singleton acts a ih =>
    rw [run_concat]
    exact ih.step a

/-! ### Builds -/

/-- A build takes back that features can be relied on exactly if the header has changed. -/
theorem readiness_step_build (h : s.context.isServerEvaluated = true) :
    (s.step .build).edge.shared.readiness =
      if s.context.lastHeader = s.context.attributes.header then s.edge.shared.readiness
      else .notReady := by
  rw [step_build h]
  have hheld := congrArg Polling.Holdings.repository (Polling.holdings_step s.unsettled
    (.changeContext s.context.attributes.header (digest s.context.attributes.header)))
  refine (congrArg Repository.readiness hheld).trans ?_
  unfold unsettled
  split
  · rfl
  · exact Repository.readiness_notReady _

/-- After a build that takes back that features can be relied on, a request that carries the present
header is under way or follows, unless the edge hangs; and if there is no header any more, only if
a request without one was under way, or none was and one was due. -/
theorem build_asks_iff (hs : s.IsFresh) (acts : List Act)
    (hc : (s.run acts).edge.canRequest = true) (hu : (s.run acts).Unsettles) :
    let before := s.run acts
    let after := before.step .build
    let header := before.context.attributes.header
    after.edge.shared.readiness = .notReady ∧
      (after.edge.IsAsking header ∨ after.edge.AsksNext header ↔
        ¬ before.edge.traffic.IsHung ∧ (header = none →
          before.edge.IsAsking none ∨ before.edge.inFlight = [] ∧ before.edge.isStale = true)) := by
  intro before after header
  have hsound : before.Sound := sound_run hs acts
  refine ⟨(readiness_step_build hsound.isServerEvaluated).trans (if_neg hu), ?_⟩
  have hne : header ≠ before.edge.header := fun heq => hu (hsound.lastHeader_eq.trans heq.symm)
  have hafter : after.edge = (before.edge.step (.modifyRepository Repository.notReady)).step
      (.changeContext header (digest header)) := by
    have hunsettled : before.unsettled = before.edge.step (.modifyRepository Repository.notReady) :=
      if_neg hu
    rw [← hunsettled]
    exact congrArg edge (step_build hsound.isServerEvaluated)
  rw [hafter]
  -- taking back that features can be relied on concerns neither callers nor requests
  exact @Polling.changeContext_asks_iff
    (before.edge.step (.modifyRepository Repository.notReady)) header hsound.orderly
    hsound.isDelegated hc hne (digest header)

/-! ### Samples -/

/-- Names a user. -/
def nameUser : Act := .change fun a => a.set Attributes.userKey "fred"

/-- Forgets all attributes. -/
def forgetAll : Act := .change fun _ => .empty

/-- A context on an edge that keeps answers for three minutes. -/
def sample : Served := ⟨.new true, Polling.sampleEdge⟩

/-- Nothing has happened to the sample. -/
theorem isFresh_sample : sample.IsFresh := ⟨rfl, Polling.isFresh_sampleEdge, rfl⟩

/-- A context that is cleared while the first request is under way waits for its answer. -/
theorem cleared_while_asking :
    let before := sample.run [.meanwhile .poll trivial, nameUser, .build, forgetAll]
    before.edge.canRequest = true ∧ before.Unsettles ∧
      ((before.step .build).edge.IsAsking none ∨ (before.step .build).edge.AsksNext none) := by
  intro before
  have hc : before.edge.canRequest = true := by decide
  have hu : before.Unsettles := by
    unfold Unsettles
    decide
  have hasks := (build_asks_iff isFresh_sample _ hc hu).2
  refine ⟨hc, hu, hasks.mpr ⟨?_, fun _ => Or.inl ?_⟩⟩
  · unfold Polling.Traffic.IsHung
    decide
  · unfold Polling.IsAsking
    decide

/-- A context that is cleared while the last answer is still kept is never asked for. -/
theorem cleared_context_not_asked :
    ¬ ∀ (s : Served) (acts : List Act), s.IsFresh → (s.run acts).edge.canRequest = true →
      let before := s.run acts
      let after := before.step .build
      let header := before.context.attributes.header
      before.edge.shared.readiness ≠ .notReady → after.edge.shared.readiness = .notReady →
        after.edge.IsAsking header ∨ after.edge.AsksNext header := by
  intro h
  have hnone : ((sample.run [nameUser, .build, .meanwhile Polling.sampleAnswer trivial,
      forgetAll]).step .build).edge.inFlight = [] := by decide
  have hasks := h sample [nameUser, .build, .meanwhile Polling.sampleAnswer trivial, forgetAll]
    isFresh_sample (by decide) (by decide) (by decide)
  rcases hasks with hasking | hnext
  · exact Polling.not_isAsking_of_inFlight_eq_nil hnone hasking
  · exact hnext.1 hnone

end Served

end FeatureFlags.Context
