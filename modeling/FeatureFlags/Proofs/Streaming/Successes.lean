import FeatureFlags.Proofs.Retryer.Backoff
import FeatureFlags.Proofs.Streaming.Moves

/-!
# What takes the backoff back

The multiplier of a retryer grows while connections fail, and a success takes it back to the
settings. An edge has one success to report: that features arrived. Whatever else comes over its
connections, and however they end, the multiplier is kept or grows (`adjusts_act`), so the backoff
is taken back exactly by the features that come while the retryer listens (`resets_iff`).

The edge goes by the name of the event, though, and does not ask what became of its text. Features
that cannot be read, or that a closed repository ignores, are a success as well. So it is only in
runs without such features that the backoff depends on what went into the repository
(`earns_resets_iff`).
-/

set_option autoImplicit false

namespace FeatureFlags.Edge

/-! ### Multipliers -/

/-- What happens to a multiplier. -/
inductive Effect where
  /-- It stays as it is. -/
  | keep
  /-- It grows, with this chance. -/
  | grow (chance : Chance)
  /-- It is that of the settings again. -/
  | reset

namespace Effect

/-- What an effect makes of a multiplier. -/
def on (settings : RetrySettings) (multiplier : Nat) : Effect → Nat
  | keep => multiplier
  | grow chance => nextMultiplier chance multiplier
  | reset => settings.multiplier

/-- An effect is a reset if its outcome does not depend on the multiplier. -/
theorem eq_reset_iff (settings : RetrySettings) (e : Effect) :
    e = reset ↔ ∀ m, e.on settings m = settings.multiplier := by
  constructor
  · rintro rfl m
    rfl
  · intro h
    cases e with
    | keep => exact absurd ((h 0).trans (h 1).symm) Nat.zero_ne_one
    | grow chance =>
      have hzero : nextMultiplier chance 0 = 3 := by
        simp [nextMultiplier, lengthen]
      have hfour : 4 ≤ nextMultiplier chance 4 := le_nextMultiplier chance (by decide)
      have hsame : nextMultiplier chance 0 = nextMultiplier chance 4 := (h 0).trans (h 4).symm
      omega
    | reset => rfl

/-- A multiplier becomes smaller only by a reset. -/
theorem le_on {settings : RetrySettings} {m : Nat} (hm : m < Nat.pow 2 64) {e : Effect}
    (he : e ≠ reset) : m ≤ e.on settings m := by
  cases e with
  | keep => exact Nat.le_refl m
  | grow chance => exact le_nextMultiplier chance hm
  | reset => exact absurd rfl he

/-- Every effect keeps multipliers representable. -/
theorem on_lt {settings : RetrySettings} (hs : settings.IsRepresentable) {m : Nat}
    (hm : m < Nat.pow 2 64) (e : Effect) : e.on settings m < Nat.pow 2 64 := by
  cases e with
  | keep => exact hm
  | grow chance => exact nextMultiplier_lt chance m
  | reset => exact hs.multiplier_lt

end Effect

namespace Retryer

variable {ρ : Type}

/-- What an outcome does to the multiplier. -/
def effect (r : Retryer ρ) (chances : Chance × Chance) (outcome : Outcome) : Effect :=
  if r.isDeaf then .keep
  else if outcome = .success then .reset
  else if (outcome.base? r.settings).isSome then .grow chances.2
  else .keep

/-- Only a success that the retryer hears of is a reset. -/
theorem effect_eq_reset_iff (r : Retryer ρ) (chances : Chance × Chance) (outcome : Outcome) :
    r.effect chances outcome = .reset ↔ r.isDeaf = false ∧ outcome = .success := by
  unfold effect
  split
  next hdeaf => simp [hdeaf]
  next hdeaf =>
    split
    next hsuccess => simp [hdeaf, hsuccess]
    next hsuccess => split <;> simp [hsuccess]

/-- The settings of a retryer stay as they are, and its multiplier changes by an effect. -/
structure Adjusts (r : Retryer ρ) (e : Effect) (r' : Retryer ρ) : Prop where
  settings_eq : r'.settings = r.settings
  multiplier_eq : r'.multiplier = e.on r.settings r.multiplier

/-- A retryer that stays as it is keeps its multiplier. -/
theorem Adjusts.refl (r : Retryer ρ) : Adjusts r .keep r := ⟨rfl, rfl⟩

/-- An outcome that is reported has its effect on the multiplier. -/
theorem adjusts_report (r : Retryer ρ) (now : Instant) (chances : Chance × Chance)
    (outcome : Outcome) (reconnector : ρ) :
    Adjusts r (r.effect chances outcome) (r.report now chances outcome reconnector) where
  settings_eq := (r.turn_step (.report now chances outcome reconnector)).settings_eq
  multiplier_eq := by
    rw [multiplier_report]
    unfold effect
    split
    · rfl
    · split
      · rfl
      · split <;> rfl

/-- A configuration keeps the multiplier. -/
theorem adjusts_configure (r : Retryer ρ) (data : String) : Adjusts r .keep (r.configure data) := by
  unfold configure
  split
  · split <;> exact ⟨rfl, rfl⟩
  · exact .refl r

/-- The end of a wait keeps the multiplier. -/
theorem adjusts_takeDue? {r r' : Retryer ρ} {now : Instant} {reconnector : ρ}
    (h : r.takeDue? now = some (reconnector, r')) : Adjusts r .keep r' := by
  obtain ⟨before, w, after, -, -, rfl⟩ := waits_of_takeDue? h
  exact ⟨rfl, rfl⟩

end Retryer

namespace Streaming

open Retryer (Adjusts)

/-! ### What an act does to the multiplier -/

/-- What the edge does with what is applied. -/
def take (s : Streaming) (generation : Nat) (chances : Chance × Chance) :
    Option (EventKind × String) → Streaming
  | some (kind, data) => s.applyMessage generation kind data chances
  | none => s

/-- What comes over an open connection is taken if it is applied. -/
theorem receive_eq_take (s : Streaming) (generation : Nat) (name data : String)
    (chances : Chance × Chance) :
    s.receive generation name data chances =
      s.take generation chances (s.applied? (.receive generation name data chances)) := by
  show _ = s.take generation chances
    (if (s.connection? generation).isSome then (EventKind.ofName? name).map (·, data) else none)
  unfold receive
  cases s.connection? generation with
  | none => rfl
  | some c => cases EventKind.ofName? name <;> rfl

/-- What comes late is taken if it is applied. -/
theorem straggle_eq_take (s : Streaming) (generation : Nat) (name data : String)
    (chances : Chance × Chance) :
    s.straggle generation name data chances =
      s.take generation chances (s.applied? (.straggle generation name data chances)) := by
  show _ = s.take generation chances
    (if s.hasGivenUp generation then (EventKind.ofName? name).map (·, data) else none)
  unfold straggle
  cases s.hasGivenUp generation with
  | false => rfl
  | true => cases EventKind.ofName? name <;> rfl

/-- What an event does to the multiplier. Features are a success; a failure ends the connection,
but leaves the multiplier. -/
def effectOf (s : Streaming) (chances : Chance × Chance) : Option (EventKind × String) → Effect
  | some (.features, _) => s.retryer.effect chances .success
  | _ => .keep

/-- What an act does to the multiplier. -/
def effect (s : Streaming) (a : Act) : Effect :=
  match a with
  | .receive _ _ _ chances | .straggle _ _ _ chances => s.effectOf chances (s.applied? a)
  | .finish generation ending chances =>
    match s.connection? generation with
    | some c => s.retryer.effect chances (ending.outcome c)
    | none => .keep
  | .trail c ending chances =>
    if s.hasGivenUp c.generation then s.retryer.effect chances (ending.outcome c) else .keep
  | .report outcome _ chances => s.retryer.effect chances outcome
  | _ => .keep

/-- Connecting is of no concern to the retryer. -/
theorem retryer_connect (s : Streaming) : s.connect.1.retryer = s.retryer := by
  have hline := congrArg Line.retryer (line_connect s)
  refine hline.trans ?_
  split <;> rfl

/-- Whoever waits is of no concern to the retryer. -/
theorem retryer_waitForConnection (s : Streaming) :
    s.waitForConnection.1.retryer = s.retryer :=
  (congrArg Line.retryer (line_waitForConnection s)).trans (retryer_connect s)

/-- Whoever polls is of no concern to the retryer. -/
theorem retryer_poll (s : Streaming) : s.poll.1.retryer = s.retryer := by
  unfold poll
  split
  · exact retryer_waitForConnection s
  · exact retryer_connect s

/-- The header is of no concern to the retryer. -/
theorem retryer_setContext (s : Streaming) (header : Option String) :
    (s.setContext header).retryer = s.retryer := by
  unfold setContext
  split <;> rfl

/-- A change of the context is of no concern to the retryer. -/
theorem retryer_changeContext (s : Streaming) (header : Option String) (sha : String) :
    (s.changeContext header sha).1.retryer = s.retryer := by
  unfold changeContext
  simp only
  split
  · exact retryer_setContext s header
  · exact (retryer_waitForConnection _).trans (retryer_setContext s header)

/-- The end of a connection has the effect of its outcome. -/
theorem adjusts_conclude (s : Streaming) (generation : Nat) (outcome : Outcome)
    (chances : Chance × Chance) :
    Adjusts s.retryer (s.retryer.effect chances outcome)
      (s.conclude generation outcome chances).retryer := by
  have hline := congrArg Line.retryer (line_conclude s generation outcome chances)
  rw [show (s.conclude generation outcome chances).retryer = _ from hline]
  exact s.retryer.adjusts_report ..

/-- The text of an event keeps the multiplier. -/
theorem adjusts_applyText (s : Streaming) (kind : EventKind) (data : String) :
    Adjusts s.retryer .keep (s.applyText kind data).retryer := by
  unfold applyText
  split
  · exact s.retryer.adjusts_configure data
  · split <;> exact .refl _

/-- Texts other than configurations are of no concern to the retryer. -/
theorem retryer_applyText {s : Streaming} {kind : EventKind} (h : kind ≠ .config) (data : String) :
    (s.applyText kind data).retryer = s.retryer := by
  cases kind with
  | config => exact absurd rfl h
  | _ => unfold applyText; simp only; split <;> rfl

/-- A connection that a failure ends keeps the multiplier. -/
theorem adjusts_endConnection (s : Streaming) (generation : Nat) (chances : Chance × Chance) :
    Adjusts s.retryer .keep (s.endConnection generation .apiKeyNotFound chances).retryer := by
  have hkeep : s.retryer.effect chances .apiKeyNotFound = .keep := by
    unfold Retryer.effect
    split <;> rfl
  rw [endConnection_eq_conclude]
  split
  · exact .refl _
  · exact hkeep ▸ adjusts_conclude s generation .apiKeyNotFound chances

/-- An event has its effect on the multiplier, be it applied late or not. -/
theorem adjusts_applyMessage (s : Streaming) (generation : Nat) (kind : EventKind) (data : String)
    (chances : Chance × Chance) :
    Adjusts s.retryer (s.effectOf chances (some (kind, data)))
      (s.applyMessage generation kind data chances).retryer := by
  cases kind with
  | features =>
    have htext : (s.applyText .features data).retryer = s.retryer :=
      retryer_applyText (by decide) data
    show Adjusts s.retryer (s.retryer.effect chances .success)
      ((s.applyText .features data).retryer.report (s.applyText .features data).shared.now chances
        .success .edge)
    rw [htext]
    exact s.retryer.adjusts_report ..
  | failure =>
    have htext : (s.applyText .failure data).retryer = s.retryer :=
      retryer_applyText (by decide) data
    rw [← htext]
    exact adjusts_endConnection (s.applyText .failure data).answerWaiters generation chances
  | ack => exact adjusts_applyText s .ack data
  | bye => exact adjusts_applyText s .bye data
  | feature => exact adjusts_applyText s .feature data
  | deleteFeature => exact adjusts_applyText s .deleteFeature data
  | config => exact adjusts_applyText s .config data

/-- What is taken has its effect on the multiplier. -/
theorem adjusts_take (s : Streaming) (generation : Nat) (chances : Chance × Chance)
    (x : Option (EventKind × String)) :
    Adjusts s.retryer (s.effectOf chances x) (s.take generation chances x).retryer := by
  cases x with
  | none => exact .refl _
  | some x => exact adjusts_applyMessage s generation x.1 x.2 chances

/-- An open connection that ends has the effect of its outcome. -/
theorem adjusts_finish (s : Streaming) (generation : Nat) (ending : Ending)
    (chances : Chance × Chance) :
    Adjusts s.retryer (s.effect (.finish generation ending chances))
      (s.finish generation ending chances).retryer := by
  show Adjusts s.retryer (match s.connection? generation with
    | some c => s.retryer.effect chances (ending.outcome c)
    | none => .keep) _
  unfold finish
  cases hc : s.connection? generation with
  | none => exact .refl _
  | some c =>
    simp only [endConnection_eq_conclude, hc, Option.isNone_some, Bool.false_eq_true, if_false]
    exact adjusts_conclude s generation (ending.outcome c) chances

/-- An end that is reported late has the effect of its outcome. -/
theorem adjusts_trail (s : Streaming) (c : Connection) (ending : Ending)
    (chances : Chance × Chance) :
    Adjusts s.retryer (s.effect (.trail c ending chances))
      (s.trail c ending chances).retryer := by
  show Adjusts s.retryer (if s.hasGivenUp c.generation then
    s.retryer.effect chances (ending.outcome c) else .keep) _
  unfold trail
  split
  · exact adjusts_conclude s c.generation (ending.outcome c) chances
  · exact .refl _

/-- A reconnect keeps the multiplier. -/
theorem adjusts_wake (s : Streaming) : Adjusts s.retryer .keep s.wake.retryer := by
  unfold wake
  split
  next hdue => exact (retryer_connect _).symm ▸ Retryer.adjusts_takeDue? hdue
  next hdue => exact Retryer.adjusts_takeDue? hdue
  next => exact .refl _

/-- Closing keeps the multiplier. -/
theorem adjusts_close (s : Streaming) : Adjusts s.retryer .keep s.close.retryer := by
  unfold close
  split <;> exact ⟨rfl, rfl⟩

/-- The multiplier changes by the effect of the act. -/
theorem adjusts_act (s : Streaming) (a : Act) :
    Adjusts s.retryer (s.effect a) (s.act a).retryer := by
  cases a with
  | poll => exact (retryer_poll s).symm ▸ .refl s.retryer
  | changeContext header sha => exact (retryer_changeContext s header sha).symm ▸ .refl s.retryer
  | receive generation name data chances =>
    show Adjusts s.retryer _ (s.receive generation name data chances).retryer
    rw [receive_eq_take]
    exact adjusts_take s generation chances _
  | finish generation ending chances => exact adjusts_finish s generation ending chances
  | straggle generation name data chances =>
    show Adjusts s.retryer _ (s.straggle generation name data chances).retryer
    rw [straggle_eq_take]
    exact adjusts_take s generation chances _
  | trail c ending chances => exact adjusts_trail s c ending chances
  | wake => exact adjusts_wake s
  | close => exact adjusts_close s
  | report outcome reconnector chances => exact s.retryer.adjusts_report ..
  | configure data => exact s.retryer.adjusts_configure data
  | modifyShared f => exact .refl _

/-! ### Resets -/

/-- The same edge with another multiplier. -/
def withMultiplier (s : Streaming) (m : Nat) : Streaming :=
  { s with retryer := { s.retryer with multiplier := m } }

/-- Whether an act takes the backoff back: whatever the multiplier was, it is that of the settings
afterwards. -/
def Resets (s : Streaming) (a : Act) : Prop :=
  ∀ m, ((s.withMultiplier m).act a).retryer.multiplier = s.retryer.settings.multiplier

/-- Whether somebody else whom the retryer serves reports a success. -/
def Act.IsOthersSuccess : Act → Prop
  | .report .success _ _ => True
  | _ => False

/-- Whether the act applies features. -/
def BringsFeatures (s : Streaming) (a : Act) : Prop :=
  ∃ data, s.applied? a = some (.features, data)

/-- The effect of an act does not depend on the multiplier. -/
theorem effect_withMultiplier (s : Streaming) (m : Nat) (a : Act) :
    (s.withMultiplier m).effect a = s.effect a := by
  cases a <;> rfl

/-- An act takes the backoff back exactly if its effect is a reset. -/
theorem resets_iff_effect (s : Streaming) (a : Act) : s.Resets a ↔ s.effect a = .reset := by
  rw [Effect.eq_reset_iff s.retryer.settings]
  refine forall_congr' fun m => ?_
  rw [(adjusts_act (s.withMultiplier m) a).multiplier_eq, effect_withMultiplier]
  rfl

/-- Of all that is applied only features that the retryer hears of are a reset. -/
theorem effectOf_eq_reset_iff (s : Streaming) (chances : Chance × Chance)
    (x : Option (EventKind × String)) :
    s.effectOf chances x = .reset ↔
      s.retryer.isDeaf = false ∧ ∃ data, x = some (.features, data) := by
  match x with
  | none => simp [effectOf]
  | some (.features, data) =>
    show s.retryer.effect chances .success = .reset ↔ _
    rw [Retryer.effect_eq_reset_iff]
    simp
  | some (.ack, _) | some (.bye, _) | some (.failure, _) | some (.feature, _)
  | some (.deleteFeature, _) | some (.config, _) => simp [effectOf]

/-- The end of a connection never takes the backoff back. -/
theorem effect_ending_ne_reset (r : Retryer Reconnector) (chances : Chance × Chance)
    (c : Connection) (ending : Ending) : r.effect chances (ending.outcome c) ≠ .reset := by
  rw [Ne, Retryer.effect_eq_reset_iff]
  exact fun h => ending.outcome_ne_success c h.2

/-- The backoff is taken back by the features that are applied while the retryer listens. -/
theorem resets_iff (s : Streaming) {a : Act} (ha : ¬ a.IsOthersSuccess) :
    s.Resets a ↔ s.retryer.isDeaf = false ∧ s.BringsFeatures a := by
  rw [resets_iff_effect]
  cases a with
  | receive | straggle => exact effectOf_eq_reset_iff ..
  | finish generation ending chances =>
    refine iff_of_false ?_ fun h => nomatch h.2.choose_spec
    show (match s.connection? generation with
      | some c => s.retryer.effect chances (ending.outcome c)
      | none => Effect.keep) ≠ _
    split
    next c _ => exact effect_ending_ne_reset s.retryer chances c ending
    next => exact nofun
  | trail c ending chances =>
    refine iff_of_false ?_ fun h => nomatch h.2.choose_spec
    show (if s.hasGivenUp c.generation then s.retryer.effect chances (ending.outcome c)
      else Effect.keep) ≠ _
    split
    · exact effect_ending_ne_reset s.retryer chances c ending
    · exact nofun
  | report outcome reconnector chances =>
    refine iff_of_false (fun h => ?_) fun h => nomatch h.2.choose_spec
    obtain ⟨-, rfl⟩ := (s.retryer.effect_eq_reset_iff chances outcome).mp h
    exact ha trivial
  | _ => exact iff_of_false nofun fun h => nomatch h.2.choose_spec

/-! ### Successes that are none -/

/-- Whether the features that an act brings go into the repository. -/
def Ingests (s : Streaming) (a : Act) : Prop :=
  ∃ data repository, s.applied? a = some (.features, data) ∧
    s.shared.repository.isClosed = false ∧
    applyEvent? .features data s.shared.repository = some repository ∧
    (s.act a).shared.repository = repository

/-- Whether an act brings features that cannot be read, or that a closed repository ignores, while
the retryer listens. -/
def Misreports (s : Streaming) (a : Act) : Prop :=
  s.retryer.isDeaf = false ∧ ∃ data, s.applied? a = some (.features, data) ∧
    (applyEvent? .features data s.shared.repository = none ∨
      s.shared.repository.isClosed = true)

/-- What is applied goes into the repository, unless it cannot be read. -/
theorem repository_take_features {s : Streaming} {data : String} {repository : Repository}
    (happly : applyEvent? .features data s.shared.repository = some repository)
    (generation : Nat) (chances : Chance × Chance) :
    (s.take generation chances (some (.features, data))).shared.repository = repository := by
  show (s.applyText .features data).shared.repository = repository
  unfold applyText
  simp only [happly]

/-- Features that are applied go into the repository as they are read. -/
theorem repository_act_of_applied? {s : Streaming} {a : Act} {data : String}
    (h : s.applied? a = some (.features, data)) {repository : Repository}
    (happly : applyEvent? .features data s.shared.repository = some repository) :
    (s.act a).shared.repository = repository := by
  cases a with
  | receive generation name _ chances =>
    show (s.receive generation name _ chances).shared.repository = repository
    rw [receive_eq_take, h]
    exact repository_take_features happly generation chances
  | straggle generation name _ chances =>
    show (s.straggle generation name _ chances).shared.repository = repository
    rw [straggle_eq_take, h]
    exact repository_take_features happly generation chances
  | _ => exact nomatch h

/-- An act takes the backoff back only with features that go into the repository, unless it
reports others. -/
theorem earned_iff (s : Streaming) {a : Act} (ha : ¬ a.IsOthersSuccess) :
    (s.Resets a → s.Ingests a) ↔ ¬ s.Misreports a := by
  rw [resets_iff s ha]
  constructor
  · rintro hearned ⟨hlistens, data, happlied, hbad⟩
    obtain ⟨data', repository, happlied', hopen, happly, -⟩ := hearned ⟨hlistens, data, happlied⟩
    obtain rfl : data = data' := by simpa [happlied] using happlied'
    rcases hbad with hunread | hclosed
    · exact absurd (hunread.symm.trans happly) nofun
    · exact absurd (hclosed.symm.trans hopen) nofun
  · rintro hreports ⟨hlistens, data, happlied⟩
    cases happly : applyEvent? .features data s.shared.repository with
    | none => exact absurd ⟨hlistens, data, happlied, .inl happly⟩ hreports
    | some repository =>
      cases hopen : s.shared.repository.isClosed with
      | true => exact absurd ⟨hlistens, data, happlied, .inr hopen⟩ hreports
      | false =>
        exact ⟨data, repository, happlied, hopen, happly,
          repository_act_of_applied? happlied happly⟩

/-! ### Runs -/

/-- Whether something holds of every act of a run, when its turn comes. -/
def Throughout (P : Streaming → Act → Prop) (s : Streaming) : List Act → Prop
  | [] => True
  | a :: acts => P s a ∧ Throughout P (s.act a) acts

/-- Whether the backoff is only taken back by features that go into the repository. -/
def EarnsResets (s : Streaming) (acts : List Act) : Prop :=
  Throughout (fun s a => s.Resets a → s.Ingests a) s acts

/-- Whether no features are reported that did not go into the repository. -/
def NeverMisreports (s : Streaming) (acts : List Act) : Prop :=
  Throughout (fun s a => ¬ s.Misreports a) s acts

/-- What follows at each act of a run follows throughout. -/
theorem Throughout.imp {P Q : Streaming → Act → Prop} {acts : List Act}
    (h : ∀ s, ∀ a ∈ acts, P s a → Q s a) {s : Streaming} (hs : Throughout P s acts) :
    Throughout Q s acts := by
  induction acts generalizing s with
  | nil => trivial
  | cons a acts ih =>
    have hrest : ∀ s, ∀ b ∈ acts, P s b → Q s b := fun s b hb => h s b (List.mem_cons_of_mem _ hb)
    exact ⟨h s a (List.mem_cons_self ..) hs.1, ih hrest hs.2⟩

/-- What is the same at each act of a run is the same throughout. -/
theorem throughout_congr {P Q : Streaming → Act → Prop} {acts : List Act}
    (h : ∀ s, ∀ a ∈ acts, P s a ↔ Q s a) (s : Streaming) :
    Throughout P s acts ↔ Throughout Q s acts :=
  ⟨.imp fun s a ha => (h s a ha).mp, .imp fun s a ha => (h s a ha).mpr⟩

/-- Whether the settings and the multiplier are numbers of 64 bits. -/
structure IsBounded (s : Streaming) : Prop where
  settings : s.retryer.settings.IsRepresentable
  multiplier_lt : s.retryer.multiplier < Nat.pow 2 64

/-- No act makes a multiplier too large. -/
theorem IsBounded.act {s : Streaming} (h : s.IsBounded) (a : Act) : (s.act a).IsBounded := by
  have hadjusts := adjusts_act s a
  refine ⟨hadjusts.settings_eq ▸ h.settings, ?_⟩
  rw [hadjusts.multiplier_eq]
  exact Effect.on_lt h.settings h.multiplier_lt _

/-- No run makes a multiplier too large. -/
theorem IsBounded.run {s : Streaming} (h : s.IsBounded) (acts : List Act) :
    (s.run acts).IsBounded := by
  induction acts using List.reverseRecOn with
  | nil => exact h
  | append_singleton acts a ih =>
    rw [run_concat]
    exact ih.act a

/-- Where nothing takes the backoff back, the multiplier does not become less. -/
theorem multiplier_le_run {s : Streaming} (h : s.IsBounded) {acts : List Act}
    (hacts : Throughout (fun s a => ¬ s.Resets a) s acts) :
    s.retryer.multiplier ≤ (s.run acts).retryer.multiplier := by
  induction acts generalizing s with
  | nil => exact Nat.le_refl _
  | cons a acts ih =>
    obtain ⟨ha, hrest⟩ := hacts
    have hstep : s.retryer.multiplier ≤ (s.act a).retryer.multiplier := by
      rw [(adjusts_act s a).multiplier_eq]
      exact Effect.le_on h.multiplier_lt fun he => ha ((resets_iff_effect s a).mpr he)
    exact Nat.le_trans hstep (ih (h.act a) hrest)

/-- A run goes on where the acts before have led. -/
theorem run_append (s : Streaming) (acts later : List Act) :
    s.run (acts ++ later) = (s.run acts).run later :=
  List.foldl_append ..

/-- In every run the backoff is only taken back by features that go into the repository exactly if
the retryer never hears of others. Where no features come at all, nothing takes it back, and the
multiplier does not become less. -/
theorem earns_resets_iff {settings : RetrySettings} (hs : settings.IsRepresentable)
    (shared : Shared) (url : String) (isServerEvaluated : Bool) {acts : List Act}
    (hacts : ∀ a ∈ acts, ¬ a.IsOthersSuccess) :
    let s := new shared url isServerEvaluated settings
    (s.EarnsResets acts ↔ s.NeverMisreports acts) ∧
      ∀ before stretch later, acts = before ++ stretch ++ later →
        Throughout (fun s a => ¬ s.BringsFeatures a) (s.run before) stretch →
          Throughout (fun s a => ¬ s.Resets a) (s.run before) stretch ∧
            (s.run before).retryer.multiplier ≤ (s.run (before ++ stretch)).retryer.multiplier := by
  intro s
  have hbounded : s.IsBounded := ⟨hs, hs.multiplier_lt⟩
  refine ⟨throughout_congr (fun s a ha => earned_iff s (hacts a ha)) s, ?_⟩
  rintro before stretch later rfl hnone
  have hresets : Throughout (fun s a => ¬ s.Resets a) (s.run before) stretch := by
    refine hnone.imp fun s a ha hnone hresets => hnone ?_
    have hothers : ¬ a.IsOthersSuccess :=
      hacts a (List.mem_append_left _ (List.mem_append_right _ ha))
    exact ((resets_iff s hothers).mp hresets).2
  rw [run_append]
  exact ⟨hresets, multiplier_le_run (hbounded.run before) hresets⟩

/-! ### Samples -/

/-- A connection that breaks, and the next one, over which features come. -/
def sampleRecovery (features : String) : List Act :=
  [.poll, .finish 1 .broken (.half, .half), .poll, .receive 2 "features" features (.half, .half)]

/-- Features that can be read take the backoff back. -/
theorem earns_resets_after_break :
    let s := new .new "" false .standard
    RetrySettings.standard.IsRepresentable ∧
      (∀ a ∈ sampleRecovery "[]", ¬ a.IsOthersSuccess) ∧
      s.EarnsResets (sampleRecovery "[]") ∧
      (s.run (sampleRecovery "[]")).retryer.multiplier = RetrySettings.standard.multiplier := by
  intro s
  have hs : RetrySettings.standard.IsRepresentable := ⟨by decide, by decide⟩
  have hacts : ∀ a ∈ sampleRecovery "[]", ¬ a.IsOthersSuccess := by
    simp [sampleRecovery, Act.IsOthersSuccess]
  refine ⟨hs, hacts, (earns_resets_iff hs .new "" false hacts).1.mpr ?_, by decide⟩
  have hread : ¬ (s.run (sampleRecovery "[]").dropLast).Misreports
      (.receive 2 "features" "[]" (.half, .half)) := by
    rintro ⟨-, data, happlied, hbad⟩
    obtain rfl : "[]" = data := congrArg Prod.snd (Option.some.inj happlied)
    rcases hbad with hunread | hclosed
    · have hsome : (applyEvent? .features "[]"
          (s.run (sampleRecovery "[]").dropLast).shared.repository).isSome = true := by decide
      rw [hunread] at hsome
      exact absurd hsome Bool.false_ne_true
    · exact absurd hclosed (by decide)
  exact ⟨fun h => (nomatch h.2.choose_spec.1), fun h => (nomatch h.2.choose_spec.1),
    fun h => (nomatch h.2.choose_spec.1), hread, trivial⟩

/-- Features that cannot be read take the backoff back as well. -/
theorem unreadable_features_reset :
    ¬ ∀ (settings : RetrySettings) (shared : Shared) (url : String) (isServerEvaluated : Bool)
        (acts : List Act), settings.IsRepresentable → (∀ a ∈ acts, ¬ a.IsOthersSuccess) →
      (new shared url isServerEvaluated settings).EarnsResets acts := by
  intro h
  have hs : RetrySettings.standard.IsRepresentable := ⟨by decide, by decide⟩
  have hacts : ∀ a ∈ sampleRecovery "junk", ¬ a.IsOthersSuccess := by
    simp [sampleRecovery, Act.IsOthersSuccess]
  obtain ⟨-, -, -, hearned, -⟩ := h .standard .new "" false (sampleRecovery "junk") hs hacts
  obtain ⟨data, repository, happlied, -, happly, -⟩ :=
    hearned ((resets_iff _ (hacts _ (by simp [sampleRecovery]))).mpr ⟨by decide, "junk", by decide⟩)
  obtain rfl : "junk" = data := congrArg Prod.snd (Option.some.inj happlied)
  have hread := Option.isSome_iff_exists.mpr ⟨repository, happly⟩
  exact absurd hread (by decide)

end Streaming

end FeatureFlags.Edge
