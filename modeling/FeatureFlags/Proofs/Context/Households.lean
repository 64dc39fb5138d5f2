import FeatureFlags.Proofs.Context.Builds
import FeatureFlags.Proofs.Governor.Conduct
import FeatureFlags.Proofs.Polling.Conduct
import FeatureFlags.Proofs.Streaming.Conduct

/-!
# Contexts that share an edge

All contexts of a client are built on the same edge, which serves the one that was built last.
Each context remembers the header of its own last build, and compares with it: a build takes back
that features can be relied on if the header is another one than that of the last build of the
same context. Other contexts may have been built since, for which the features were evaluated.

The main statement says after which builds features cannot be relied on until the edge has heard
from the server. It holds of every edge that learns of features from answers only.
-/

set_option autoImplicit false

namespace FeatureFlags.Context

open Edge

/-- The contexts of a client, and the edge they share. -/
structure Household (σ : Type) where
  /-- The contexts, in the order in which they were made. -/
  contexts : List Context
  /-- The edge. -/
  edge : σ
  /-- Which contexts were built, and with which headers, in order. -/
  built : List (Nat × Option String)

namespace Household

/-- What can happen to a client with several contexts. -/
inductive Act (σ : Type) [Eventful σ] where
  /-- A context is made. -/
  | create
  /-- The attributes of a context are changed. -/
  | change (i : Nat) (f : Attributes → Attributes)
  /-- A context is built. -/
  | build (i : Nat)
  /-- A feature is read from a context. -/
  | read (i : Nat) (vars : Variables) (now : Rollout.Moment) (key : String)
  /-- The edge is polled. -/
  | poll
  /-- The client is closed. -/
  | close
  /-- Something happens to the edge. -/
  | meanwhile (x : Eventful.Event σ)

variable {σ : Type}

/-- The header of which the edge was told last. -/
def told (h : Household σ) : Option String := h.built.getLast?.bind Prod.snd

/-- The header of the last build of a context. -/
def toldBy (h : Household σ) (i : Nat) : Option String :=
  (h.built.filter fun b => b.1 = i).getLast?.bind Prod.snd

variable [Edge σ]

/-- A context that the server evaluates is built there. -/
theorem build_eq_buildOnServer {c : Context} (hc : c.isServerEvaluated = true) (e : σ) :
    c.build e = c.buildOnServer e := by
  unfold build
  rw [if_pos hc]

variable [Eventful σ]

/-- A client whose contexts the server evaluates, before the first of them is made. -/
def new (e : σ) : Household σ := ⟨[], e, []⟩

/-- The client after the build of a context. -/
def afterBuild (h : Household σ) (i : Nat) (c : Context) : Household σ where
  contexts := h.contexts.set i (c.build h.edge).1
  edge := (c.build h.edge).2.1
  built := h.built ++ [(i, c.attributes.header)]

/-- What happens to a client with several contexts. -/
def step (h : Household σ) : Act σ → Household σ
  | .create => { h with contexts := h.contexts ++ [.new true] }
  | .change i f => { h with contexts := h.contexts.modify i fun c => c.modify f }
  | .build i => (h.contexts[i]?).elim h (h.afterBuild i)
  | .read i vars now key =>
    (h.contexts[i]?).elim h fun c => { h with edge := (c.feature h.edge vars now key).1 }
  | .poll => { h with edge := (Edge.poll h.edge).1 }
  | .close => { h with edge := modifyRepository (Edge.close h.edge) Repository.close }
  | .meanwhile x => { h with edge := Eventful.happen h.edge x }

/-- What a run makes of a client with several contexts. -/
def run (h : Household σ) (acts : List (Act σ)) : Household σ := acts.foldl step h

/-- A run ends with its last act. -/
@[simp] theorem run_concat (h : Household σ) (acts : List (Act σ)) (a : Act σ) :
    h.run (acts ++ [a]) = (h.run acts).step a := by
  simp [run]

/-! ### What contexts remember -/

section Memory

omit [Edge σ] [Eventful σ]

/-- What is true of all contexts in every run. -/
structure Sound (h : Household σ) : Prop where
  /-- The server evaluates a context, which remembers the header of its last build. -/
  context : ∀ i c, h.contexts[i]? = some c →
    c.isServerEvaluated = true ∧ c.lastHeader = h.toldBy i
  /-- Only contexts that were made are built. -/
  built_lt : ∀ b ∈ h.built, b.1 < h.contexts.length

/-- A context that was not made yet has no builds. -/
theorem Sound.toldBy_eq_none {h : Household σ} (hs : h.Sound) :
    h.toldBy h.contexts.length = none := by
  have hnone : h.built.filter (fun b => b.1 = h.contexts.length) = [] := by
    refine List.filter_eq_nil_iff.mpr fun b hb heq => ?_
    exact Nat.ne_of_lt (hs.built_lt b hb) (of_decide_eq_true heq)
  unfold toldBy
  rw [hnone]
  rfl

/-- Whoever was built last told the edge of its header. -/
theorem toldBy_eq_told {h : Household σ} {b : Nat × Option String}
    (hb : h.built.getLast? = some b) : h.toldBy b.1 = h.told := by
  obtain ⟨earlier, hbuilt⟩ := List.getLast?_eq_some_iff.mp hb
  unfold toldBy told
  simp [hbuilt, List.filter_append]

/-- If the edge was told last of another header than that of the last build of a context, another
context was built since. -/
theorem exists_built_since {h : Household σ} {i : Nat} (hne : h.told ≠ h.toldBy i) :
    ∃ b, h.built.getLast? = some b ∧ b.1 ≠ i := by
  cases hb : h.built.getLast? with
  | none =>
    have hbuilt := List.getLast?_eq_none_iff.mp hb
    refine absurd ?_ hne
    unfold told toldBy
    rw [hbuilt]
    rfl
  | some b =>
    refine ⟨b, rfl, fun heq => hne ?_⟩
    rw [← toldBy_eq_told hb, heq]

end Memory

/-- A new context was told nothing yet. -/
theorem Sound.create {h : Household σ} (hs : h.Sound) : (h.step .create).Sound where
  context i c hc := by
    simp only [step] at hc
    rcases Nat.lt_trichotomy i h.contexts.length with hlt | rfl | hgt
    · rw [List.getElem?_append_left hlt] at hc
      exact hs.context i c hc
    · rw [List.getElem?_concat_length, Option.some_inj] at hc
      rw [← hc]
      exact ⟨rfl, hs.toldBy_eq_none.symm⟩
    · have hle : (h.contexts ++ [Context.new true]).length ≤ i := by
        rw [List.length_append]
        exact hgt
      exact absurd (List.getElem?_eq_none hle) (Option.ne_none_iff_exists'.mpr ⟨c, hc⟩)
  built_lt b hb := by
    simp only [step, List.length_append]
    exact Nat.lt_add_right _ (hs.built_lt b hb)

/-- Other attributes leave what contexts were told as it is. -/
theorem Sound.change {h : Household σ} (hs : h.Sound) (i : Nat) (f : Attributes → Attributes) :
    (h.step (.change i f)).Sound where
  context j c hc := by
    simp only [step, List.getElem?_modify, Option.map_eq_map, Option.map_eq_some_iff] at hc
    obtain ⟨c', hc', rfl⟩ := hc
    have hold := hs.context j c' hc'
    split <;> exact hold
  built_lt b hb := by
    simp only [step, List.length_modify]
    exact hs.built_lt b hb

omit [Eventful σ] in
/-- A build tells the edge the header of its own context. -/
theorem toldBy_afterBuild (h : Household σ) (i j : Nat) (c : Context) :
    (h.afterBuild i c).toldBy j = if i = j then c.attributes.header else h.toldBy j := by
  unfold toldBy afterBuild
  by_cases hij : i = j <;> simp [List.filter_append, hij]

omit [Eventful σ] in
/-- After a build its context remembers the header. -/
theorem Sound.afterBuild {h : Household σ} (hs : h.Sound) {i : Nat} {c : Context}
    (hc : h.contexts[i]? = some c) : (h.afterBuild i c).Sound := by
  obtain ⟨hi, -⟩ := List.getElem?_eq_some_iff.mp hc
  obtain ⟨hserver, -⟩ := hs.context i c hc
  constructor
  case context =>
    intro j c' hc'
    rw [toldBy_afterBuild]
    simp only [Household.afterBuild] at hc'
    by_cases hij : i = j
    · rw [hij] at hc' hi
      rw [List.getElem?_set_self hi, Option.some_inj, build_eq_buildOnServer hserver] at hc'
      rw [if_pos hij, ← hc']
      exact ⟨hserver, rfl⟩
    · rw [List.getElem?_set_ne hij] at hc'
      rw [if_neg hij]
      exact hs.context j c' hc'
  case built_lt =>
    intro b hb
    simp only [Household.afterBuild, List.length_set]
    rcases List.mem_append.mp hb with hold | hnew
    · exact hs.built_lt b hold
    · rw [List.mem_singleton.mp hnew]
      exact hi

/-- Every act keeps what contexts remember right. -/
theorem Sound.step {h : Household σ} (hs : h.Sound) (a : Act σ) : (h.step a).Sound := by
  cases a with
  | create => exact hs.create
  | change i f => exact hs.change i f
  | build i =>
    simp only [Household.step]
    cases hc : h.contexts[i]? with
    | none => exact hs
    | some c => exact hs.afterBuild hc
  | read i =>
    simp only [Household.step]
    cases h.contexts[i]? with
    | none => exact hs
    | some c => exact ⟨hs.context, hs.built_lt⟩
  | poll | close | meanwhile => exact ⟨hs.context, hs.built_lt⟩

/-- In every run contexts remember the headers of their last builds. -/
theorem sound_run (e : σ) (acts : List (Act σ)) : ((new e).run acts).Sound := by
  induction acts using List.reverseRecOn with
  | nil => exact ⟨fun _ _ hc => (nomatch hc), List.forall_mem_nil _⟩
  | append_singleton acts a ih =>
    rw [run_concat]
    exact ih.step a

/-! ### Readiness -/

variable [Discreet σ]

/-- Whether an act may bring an answer or a failure. -/
def Act.Informs : Act σ → Prop
  | meanwhile x => Discreet.Informs x
  | _ => False

/-- A build takes back that features can be relied on if the header is new to the context. -/
theorem readiness_build {c : Context} (hc : c.isServerEvaluated = true) (e : σ) :
    readiness (c.build e).2.1 =
      if c.lastHeader = c.attributes.header then readiness e else .notReady := by
  rw [build_eq_buildOnServer hc]
  refine (congrArg Repository.readiness (Discreet.repository_changeContext ..)).trans ?_
  split
  · rfl
  · rw [repository_modifyRepository]
    exact Repository.readiness_notReady _

/-- A build leaves the readiness as it is exactly if the context was told this header last. -/
theorem Sound.readiness_step_build {h : Household σ} (hs : h.Sound) {i : Nat} {c : Context}
    (hc : h.contexts[i]? = some c) :
    readiness (h.step (.build i)).edge =
      if h.toldBy i = c.attributes.header then readiness h.edge else .notReady := by
  obtain ⟨hserver, hlast⟩ := hs.context i c hc
  have hstep : h.step (.build i) = h.afterBuild i c :=
    congrArg (fun o => o.elim h (h.afterBuild i)) hc
  rw [hstep, ← hlast]
  exact readiness_build hserver h.edge

/-- Reading a feature leaves the readiness as it is. -/
theorem readiness_feature (c : Context) (e : σ) (vars : Variables) (now : Rollout.Moment)
    (key : String) : readiness (c.feature e vars now key).1 = readiness e := by
  refine (congrArg Repository.readiness (repository_modifyRepository ..)).trans ?_
  refine (Repository.readiness_getFeature ..).trans ?_
  exact congrArg Repository.readiness (Discreet.repository_featureUsed e)

/-- Without an answer or a failure features do not become reliable. -/
theorem notReady_step {h : Household σ} (hs : h.Sound) {a : Act σ} (ha : ¬ a.Informs)
    (hr : readiness h.edge = .notReady) : readiness (h.step a).edge = .notReady := by
  cases a with
  | create | change => exact hr
  | build i =>
    cases hc : h.contexts[i]? with
    | none => simpa only [step, hc, Option.elim_none] using hr
    | some c => rw [hs.readiness_step_build hc, hr, ite_self]
  | read i vars now key =>
    simp only [step]
    cases h.contexts[i]? with
    | none => exact hr
    | some c => exact (readiness_feature c h.edge vars now key).trans hr
  | poll =>
    exact (congrArg Repository.readiness (Discreet.repository_poll h.edge)).trans hr
  | close =>
    have hclose : readiness (Edge.close h.edge) = .notReady :=
      (congrArg Repository.readiness (Discreet.repository_close h.edge)).trans hr
    refine (congrArg Repository.readiness (repository_modifyRepository ..)).trans ?_
    refine (Repository.readiness_close _).trans ?_
    split
    · exact hclose
    · rfl
  | meanwhile x =>
    exact (congrArg Repository.readiness (Discreet.repository_happen h.edge x ha)).trans hr

/-- Until the edge is informed features cannot be relied on if they could not before. -/
theorem notReady_run {h : Household σ} (hs : h.Sound) (hr : readiness h.edge = .notReady)
    {acts : List (Act σ)} (ha : ∀ a ∈ acts, ¬ a.Informs) :
    readiness (h.run acts).edge = .notReady := by
  induction acts generalizing h with
  | nil => exact hr
  | cons a acts ih =>
    obtain ⟨hfirst, hrest⟩ := List.forall_mem_cons.mp ha
    exact ih (hs.step a) (notReady_step hs hfirst hr) hrest

/-- A context is built whose header differs from the one of which the edge was told last. Then
features cannot be relied on, until the edge hears from the server, exactly if the header also
differs from that of the last build of the same context, or they could not be relied on before.
Otherwise another context was built since. -/
theorem build_unsettles_iff (e : σ) (acts : List (Act σ)) {i : Nat} {c : Context}
    (hc : ((new e).run acts).contexts[i]? = some c) :
    let before := (new e).run acts
    let header := c.attributes.header
    before.told ≠ header →
      ((∀ later : List (Act σ), (∀ a ∈ later, ¬ a.Informs) →
          readiness ((before.step (.build i)).run later).edge = .notReady) ↔
        before.toldBy i ≠ header ∨ readiness before.edge = .notReady) ∧
      (before.toldBy i = header → ∃ b, before.built.getLast? = some b ∧ b.1 ≠ i) := by
  intro before header hne
  have hs : before.Sound := sound_run e acts
  have hbuild : readiness (before.step (.build i)).edge =
      if before.toldBy i = header then readiness before.edge else .notReady :=
    hs.readiness_step_build hc
  constructor
  · constructor
    · intro hstays
      have hnow := hstays [] (List.forall_mem_nil _)
      by_cases hsame : before.toldBy i = header
      · refine Or.inr ?_
        rwa [run, List.foldl_nil, hbuild, if_pos hsame] at hnow
      · exact Or.inl hsame
    · intro hcond later hlater
      refine notReady_run (hs.step _) (hbuild.trans ?_) hlater
      split
      · next hsame => exact hcond.resolve_left (fun hdiffers => hdiffers hsame)
      · rfl
  · intro hsame
    exact exists_built_since (hsame ▸ hne)

/-! ### Samples -/

/-- Names the user of a context. -/
def nameUser (i : Nat) (name : String) : Act Polling :=
  .change i fun a => a.set Attributes.userKey name

/-- The edge hears from the server. -/
def sampleAnswer : Act Polling := .meanwhile ⟨Polling.sampleAnswer, trivial⟩

/-- Two contexts for two users, of which the first was built and its request answered. -/
def firstUser : List (Act Polling) :=
  [.create, .create, nameUser 0 "fred", nameUser 1 "mary", .build 0, sampleAnswer]

/-- The second was built as well, and its request answered. -/
def secondUser : List (Act Polling) := firstUser ++ [.build 1, sampleAnswer]

/-- When the second user comes, features cannot be relied on until the edge hears from the
server. -/
theorem second_user_unsettles :
    let before := (new Polling.sampleEdge).run firstUser
    before.told = some "userkey=fred" ∧ readiness before.edge = .ready ∧
      ∀ later : List (Act Polling), (∀ a ∈ later, ¬ a.Informs) →
        readiness ((before.step (.build 1)).run later).edge = .notReady := by
  intro before
  have hc : before.contexts[1]? =
      some ⟨Attributes.empty.set Attributes.userKey "mary", true, none⟩ :=
    rfl
  have hbuild := (build_unsettles_iff Polling.sampleEdge firstUser hc (by decide)).1
  exact ⟨by decide, by decide, hbuild.mpr (Or.inl (by decide))⟩

/-- When the first user comes back, features count as reliable that were evaluated for the
second. -/
theorem first_user_back_not_unsettled :
    ¬ ∀ (e : Polling) (acts : List (Act Polling)) (i : Nat) (c : Context),
      e.IsFresh → ((new e).run acts).contexts[i]? = some c →
      ((new e).run acts).told ≠ c.attributes.header →
        readiness (((new e).run acts).step (.build i)).edge = .notReady := by
  intro h
  have hready := h Polling.sampleEdge secondUser 0
    ⟨Attributes.empty.set Attributes.userKey "fred", true, some "userkey=fred"⟩
    Polling.isFresh_sampleEdge (by rfl) (by decide)
  exact absurd hready (by decide)

end Household

end FeatureFlags.Context
