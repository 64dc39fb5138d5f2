import FeatureFlags.Proofs.Governor.Moves

/-!
# The conduct of governed edges

A governor adds nothing to what an edge says of the features: whatever the governor and its
callers do, the features change only with what happens to the edge.
-/

set_option autoImplicit false

namespace FeatureFlags.Edge.Governed

variable {σ : Type} [Edge σ] [Eventful σ]

/-- Whether a move is none of the calls of a client. -/
def Move.IsOwn : Move σ → Prop
  | fire _ | advance _ | inner _ => True
  | _ => False

instance : Eventful (Governed σ) where
  Event := { m : Move σ // m.IsOwn }
  happen g m := g.move m.1

variable [Discreet σ]

/-- Whether a move may change the features. -/
def Move.Informs : Move σ → Prop
  | inner x => Discreet.Informs x
  | _ => False

/-- No step of an activity changes the features. -/
theorem repository_turns {g g₁ : Governed σ} {a : Activity} {after : List Activity}
    (h : g.Turns a g₁ after) : repository g₁.inner = repository g.inner := by
  cases h with
  | decline => exact repository_modifyShared ..
  | promise | change => exact repository_modifyShared ..
  | failSpawn | dropLaunch | dropAwait => exact repository_modifyShared ..
  | tell | excuse => exact repository_modifyShared ..
  | @launch job =>
    cases job with
    | poll => exact Discreet.repository_poll g.inner
    | changeContext header sha => exact Discreet.repository_changeContext g.inner header sha
  | halt | schedule | failSchedule => exact Discreet.repository_interval g.inner
  | closeEdge => exact Discreet.repository_close g.inner
  | _ => rfl

/-- A move that informs nobody leaves the repository alone. -/
theorem repository_move {g : Governed σ} {m : Move σ} (hm : ¬ m.Informs) :
    repository (g.move m).inner = repository g.inner := by
  have hmoves := moves_move g m
  generalize g.move m = g' at hmoves
  cases hmoves with
  | idle | start => rfl
  | advance h =>
    obtain ⟨-, -, hturns, l, -, rfl⟩ := h
    rw [inner_withActivities]
    exact repository_turns hturns
  | inner => exact Discreet.repository_happen _ _ hm

/-- No caller changes the features. -/
theorem repository_runActivity (n : Nat) (g : Governed σ) (a : Activity) :
    repository (runActivity n g a).inner = repository g.inner := by
  induction n generalizing g a with
  | zero => rfl
  | succ n ih =>
    have hadvance : ∀ {g' : Governed σ} {next : Option Activity},
        g.advance a = some (g', next) → repository g'.inner = repository g.inner := by
      intro g' next h
      obtain ⟨g₁, spawned, hturns, rfl⟩ := turns_of_advance h
      rw [inner_withActivities]
      exact repository_turns hturns
    simp only [runActivity]
    split
    · rfl
    · next h => exact hadvance h
    · next h => exact (ih ..).trans (hadvance h)

instance : Discreet (Governed σ) where
  Informs m := m.1.Informs
  shared_modifyShared g f := Sharing.shared_modifyShared g.inner f
  repository_poll g := repository_runActivity callerSteps g .acquire
  repository_changeContext g header sha :=
    repository_runActivity callerSteps g (.change header sha)
  repository_featureUsed _ := rfl
  repository_interval g := Discreet.repository_interval g.inner
  repository_close g := repository_runActivity callerSteps g .close
  repository_happen _ _ := repository_move

end FeatureFlags.Edge.Governed
