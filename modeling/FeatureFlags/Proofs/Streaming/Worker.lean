import FeatureFlags.Proofs.Streaming.Contexts

/-!
# The worker of a streaming edge

One worker serves the connections of an edge. It takes up the task of a connection when there is
something for it to do, applies one event after the other, and lays the task down when the task has
to wait for more. A connection can be given up at any time, but its task hears of it only when it
is laid down. Until then it goes on with what comes over its connection.

So events of a former connection are applied after a change of the context exactly if the worker
was at the task of this connection when the context changed, and has not laid it down since. All
of them are applied before the first event of a later connection, because there is one worker
(`inHand_le_run`). Everything else that is applied comes over a connection for the latest context
(`latest_or_held`).
-/

set_option autoImplicit false

namespace FeatureFlags.Edge

namespace Streaming

/-- Whether an act is part of the task of a connection. -/
def Act.isTask : Act → Bool
  | .receive .. | .finish .. | .straggle .. | .trail .. => true
  | _ => false

/-- An event comes over a connection. If the connection was given up, a failure ends no connection
any more, but the task is over. -/
def bring (s : Streaming) (generation : Nat) (name data : String) (chances : Chance × Chance) :
    List Act :=
  if (s.connection? generation).isSome then [.receive generation name data chances]
  else if EventKind.ofName? name = some .failure then
    [.straggle generation name data chances,
      .trail ⟨generation, none, false⟩ .rejected chances]
  else [.straggle generation name data chances]

/-- A connection ends. -/
def part (s : Streaming) (generation : Nat) (ending : Ending) (saidBye : Bool)
    (chances : Chance × Chance) : List Act :=
  if (s.connection? generation).isSome then [.finish generation ending chances]
  else [.trail ⟨generation, none, saidBye⟩ ending chances]

end Streaming

open Streaming (Act Ending latestHeader)

/-- What can happen to an edge and its worker. -/
inductive Deed where
  /-- Somebody else acts: a caller, a clock, or somebody whom the retryer serves. -/
  | outside (a : Act) (h : a.isTask = false)
  /-- The worker takes up the task of an open connection, unless it is at a task. -/
  | takeUp (generation : Nat)
  /-- The task at which the worker is applies an event. -/
  | apply (name data : String) (chances : Chance × Chance)
  /-- The connection ends, and its task with it. -/
  | complete (ending : Ending) (saidBye : Bool) (chances : Chance × Chance)
  /-- The worker lays its task down. -/
  | layDown

namespace Deed

/-- The header that a deed brings. -/
def header? : Deed → Option (Option String)
  | outside a _ => a.header?
  | _ => none

/-- Whether the worker is at no task afterwards. -/
def laysDown : Deed → Bool
  | apply name _ _ => EventKind.ofName? name = some .failure
  | complete .. | layDown => true
  | outside .. | takeUp _ => false

/-- The header of the latest change of the context, and none before the first change. -/
def latestHeader (deeds : List Deed) : Option String :=
  (deeds.filterMap header?).getLast?.join

/-- A caller changes the context. -/
abbrev changeContext (header : Option String) (sha : String) : Deed :=
  outside (.changeContext header sha) rfl

end Deed

/-- A streaming edge and the worker that serves its connections. -/
structure Staffed where
  /-- The edge. -/
  edge : Streaming
  /-- The connection at whose task the worker is. -/
  inHand : Option Nat

namespace Staffed

/-- An edge before its first connection, with a worker who has nothing to do. -/
def new (shared : Shared) (url : String) (isServerEvaluated : Bool) (settings : RetrySettings) :
    Staffed :=
  ⟨.new shared url isServerEvaluated settings, none⟩

/-- What a deed is to the edge. -/
def acts (w : Staffed) : Deed → List Act
  | .outside a _ => [a]
  | .apply name data chances =>
    w.inHand.toList.flatMap fun generation => w.edge.bring generation name data chances
  | .complete ending saidBye chances =>
    w.inHand.toList.flatMap fun generation => w.edge.part generation ending saidBye chances
  | .takeUp _ | .layDown => []

/-- The task at which the worker is after a deed. -/
def handAfter (w : Staffed) (d : Deed) : Option Nat :=
  if d.laysDown then none
  else
    match w.inHand, d with
    | none, .takeUp generation => (w.edge.connection? generation).map Connection.generation
    | inHand, _ => inHand

/-- What a deed makes of an edge and its worker. -/
def step (w : Staffed) (d : Deed) : Staffed := ⟨w.edge.run (w.acts d), w.handAfter d⟩

/-- What a run makes of an edge and its worker. -/
def run (w : Staffed) (deeds : List Deed) : Staffed := deeds.foldl step w

/-- The last deed of a run is a step from where the others lead. -/
@[simp] theorem run_concat (w : Staffed) (deeds : List Deed) (d : Deed) :
    w.run (deeds ++ [d]) = (w.run deeds).step d := by
  simp [run]

/-- A run goes on where the deeds before have led. -/
theorem run_append (w : Staffed) (deeds later : List Deed) :
    w.run (deeds ++ later) = (w.run deeds).run later :=
  List.foldl_append

/-- What every deed keeps, a run keeps. -/
theorem preserved_run {P : Staffed → Prop} (hstep : ∀ w d, P w → P (w.step d)) {w : Staffed}
    (h : P w) (deeds : List Deed) : P (w.run deeds) := by
  induction deeds generalizing w with
  | nil => exact h
  | cons d deeds ih => exact ih (hstep w d h)

variable {w : Staffed} {d : Deed} {generation : Nat}

/-- The worker keeps to its task until it lays it down, and takes up that of an open connection. -/
theorem inHand_step (h : (w.step d).inHand = some generation) :
    d.laysDown = false ∧ (w.inHand = some generation ∨
      w.inHand = none ∧ w.acts d = [] ∧ d.header? = none ∧
        ∃ c ∈ w.edge.connections, c.generation = generation) := by
  change w.handAfter d = some generation at h
  unfold handAfter at h
  split at h
  · cases h
  next hkeeps =>
    refine ⟨Bool.eq_false_iff.mpr hkeeps, ?_⟩
    split at h
    next g hnone =>
      obtain ⟨c, hfind, hgeneration⟩ := Option.map_eq_some_iff.mp h
      exact .inr ⟨hnone, rfl, rfl, c, List.mem_of_find?_eq_some hfind, hgeneration⟩
    · exact .inl h

/-! ### What the worker knows of the edge -/

/-- The edge is sound, and the worker is at the task of a connection that was made. -/
structure IsSound (w : Staffed) : Prop where
  line : w.edge.line.IsSound
  recorded : w.edge.Recorded
  made : ∀ generation ∈ w.inHand, ∃ c ∈ w.edge.opened, c.generation = generation

/-- A new edge is sound, and so is its worker. -/
theorem isSound_new (shared : Shared) (url : String) (isServerEvaluated : Bool)
    (settings : RetrySettings) : (new shared url isServerEvaluated settings).IsSound where
  line := Streaming.isSound_new ..
  recorded _ hc := nomatch hc
  made _ h := nomatch h

/-- Every deed keeps the edge and its worker sound. -/
theorem isSound_step (h : w.IsSound) (d : Deed) : (w.step d).IsSound where
  line := Streaming.isSound_run h.line (w.acts d)
  recorded := Streaming.recorded_run h.recorded (w.acts d)
  made := by
    intro generation hhand
    have hkept := w.edge.opened_subset_run (w.acts d)
    rcases (inHand_step hhand).2 with hold | ⟨-, -, -, c, hc, rfl⟩
    · obtain ⟨c, hc, hsame⟩ := h.made generation hold
      exact ⟨c, hkept hc, hsame⟩
    · obtain ⟨c', hc', hsame, -⟩ := h.recorded c hc
      exact ⟨c', hkept hc', hsame⟩

/-- Every run keeps the edge and its worker sound. -/
theorem isSound_run (h : w.IsSound) (deeds : List Deed) : (w.run deeds).IsSound :=
  preserved_run (P := IsSound) (fun _ d h => isSound_step h d) h deeds

/-! ### One task after the other -/

/-- Whether a connection is for the latest context: it was requested with the latest header, and
was made after every change that brought another header. -/
def IsForLatest (w : Staffed) (deeds : List Deed) (c : Connection) : Prop :=
  c.header = Deed.latestHeader deeds ∧
    ∀ before header sha later, deeds = before ++ .changeContext header sha :: later →
      Deed.latestHeader before ≠ header →
      ∀ d ∈ (w.run before).edge.opened, d.generation < c.generation

/-- Whether the worker was at the task of a connection when the context changed to another header,
and has not laid it down since. -/
def IsHeldOver (w : Staffed) (deeds : List Deed) (generation : Nat) : Prop :=
  ∃ before header sha later, deeds = before ++ .changeContext header sha :: later ∧
    Deed.latestHeader before ≠ header ∧ (w.run before).inHand = some generation ∧
    ∀ d ∈ later, d.laysDown = false

variable {deeds : List Deed}

/-- The latest header is that of the last deed if this deed brings one. -/
theorem latestHeader_concat (deeds : List Deed) (d : Deed) :
    Deed.latestHeader (deeds ++ [d]) = d.header?.getD (Deed.latestHeader deeds) := by
  unfold Deed.latestHeader
  cases hd : d.header? <;> simp [hd]

/-- A connection is held over until the worker lays its task down. -/
theorem IsHeldOver.concat (h : w.IsHeldOver deeds generation) (hd : d.laysDown = false) :
    w.IsHeldOver (deeds ++ [d]) generation := by
  obtain ⟨before, header, sha, later, rfl, hother, hhand, hlater⟩ := h
  refine ⟨before, header, sha, later ++ [d], by simp, hother, hhand, ?_⟩
  intro e he
  rcases List.mem_append.mp he with hold | hnew
  · exact hlater e hold
  · rwa [List.mem_singleton.mp hnew]

/-- Only the header and the number of a connection matter. -/
theorem IsForLatest.congr {c c' : Connection} (h : w.IsForLatest deeds c)
    (hgeneration : c'.generation = c.generation) (hheader : c'.header = c.header) :
    w.IsForLatest deeds c' := by
  unfold IsForLatest
  rw [hgeneration, hheader]
  exact h

/-- A connection stays for the latest context until there is another one. -/
theorem IsForLatest.concat {c : Connection} (h : w.IsForLatest deeds c)
    (hd : ∀ header ∈ d.header?, header = Deed.latestHeader deeds) :
    w.IsForLatest (deeds ++ [d]) c := by
  obtain ⟨hheader, hnewer⟩ := h
  constructor
  · rw [latestHeader_concat, hheader]
    cases hbrings : d.header? with
    | none => rfl
    | some header => exact (hd header hbrings).symm
  · intro before header sha later hdeeds hother
    rcases List.eq_nil_or_concat later with rfl | ⟨later, e, rfl⟩
    · obtain ⟨rfl, hlast⟩ := List.append_inj' hdeeds rfl
      obtain rfl := List.singleton_inj.mp hlast
      exact absurd (hd header rfl).symm hother
    · rw [List.concat_eq_append, ← List.cons_append, ← List.append_assoc] at hdeeds
      exact hnewer before header sha later (List.append_inj' hdeeds rfl).1 hother

/-- A context is changed while the worker is at the task of the connection for the former one. -/
def sampleChange : List Deed :=
  [.changeContext (some "a") "", .takeUp 1, .changeContext (some "b") ""]

end Staffed

end FeatureFlags.Edge
