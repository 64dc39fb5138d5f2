import FeatureFlags.Repository.Update

/-!
# Histories of a repository

Everything that can be done to a repository is an `Operation`, and a history is a list of them.
Lookups count as operations, because a lookup of an unknown key makes an entry; reading an entry
or the index of identities changes nothing and is no operation.

`run_unbatch` says that a batch is nothing but its states, delivered one by one, and an empty
batch after them. What happens within a batch can therefore be told by a history without
nonempty batches.
-/

set_option autoImplicit false

namespace FeatureFlags.Repository

/-- What can be done to a repository. -/
inductive Operation where
  /-- One state is delivered. -/
  | update (s : FeatureState) (force : Bool)
  /-- A batch of states is delivered. -/
  | updateAll (states : List FeatureState) (force : Bool)
  /-- A feature is deleted. -/
  | delete (s : FeatureState)
  /-- A key is looked up. -/
  | getFeature (key : String)
  /-- The server cannot be relied on. -/
  | fail
  /-- The context has changed. -/
  | notReady
  /-- The server has no features. -/
  | markEmpty
  /-- The repository is closed. -/
  | close
  /-- A listener is registered. -/
  | listen (a : Audience) (listener : Listener)
  /-- A listener is cancelled. -/
  | cancel (a : Audience) (id : ListenerId)
  /-- An override is added. -/
  | intercept (i : Interceptor)
  /-- Errors are logged, such as those of items that cannot be read. -/
  | logErrors (n : Nat)

/-- Does one operation. -/
def step (r : Repository) : Operation → Repository
  | .update s force => (r.updateFeature s force).1
  | .updateAll states force => r.updateFeatures states force
  | .delete s => r.deleteFeature s
  | .getFeature key => (r.getFeature key).1
  | .fail => r.fail
  | .notReady => r.notReady
  | .markEmpty => r.markEmpty
  | .close => r.close
  | .listen a listener => r.listen a listener
  | .cancel a id => r.cancel a id
  | .intercept i => r.intercept i
  | .logErrors n => r.logErrors n

/-- Does operations from left to right. -/
def run (r : Repository) (ops : List Operation) : Repository := ops.foldl step r

/-- The repository after a history. -/
def after (ops : List Operation) : Repository := run new ops

/-- A repository that some history leads to. -/
def Reachable (r : Repository) : Prop := ∃ ops, after ops = r

/-- No operations leave a repository as it is. -/
@[simp] theorem run_nil (r : Repository) : r.run [] = r := rfl

/-- A run begins with its first operation. -/
@[simp] theorem run_cons (r : Repository) (op : Operation) (ops : List Operation) :
    r.run (op :: ops) = (r.step op).run ops := rfl

/-- A run can be cut anywhere. -/
theorem run_append (r : Repository) (xs ys : List Operation) :
    r.run (xs ++ ys) = (r.run xs).run ys :=
  List.foldl_append

/-- The repository after two histories is the one after the first, run through the second. -/
theorem after_append (xs ys : List Operation) : after (xs ++ ys) = (after xs).run ys :=
  run_append new xs ys

/-! ### Batches -/

/-- A batch as single deliveries with an empty batch behind them, any other operation as it is. -/
def Operation.unbatch : Operation → List Operation
  | .updateAll states force => states.map (.update · force) ++ [.updateAll [] force]
  | op => [op]

/-- A history in which every batch is delivered state by state. -/
def unbatch (ops : List Operation) : List Operation := ops.flatMap Operation.unbatch

/-- Whether an operation is not a batch with states in it. -/
def Operation.IsSingle : Operation → Prop
  | .updateAll states _ => states = []
  | _ => True

/-- What a history is taken apart into holds no batch. -/
theorem isSingle_of_mem_unbatch {ops : List Operation} {op : Operation} (h : op ∈ unbatch ops) :
    op.IsSingle := by
  obtain ⟨o, -, ho⟩ := List.mem_flatMap.mp h
  cases o with
  | updateAll states force =>
    rcases List.mem_append.mp ho with ho | ho
    · obtain ⟨s, -, rfl⟩ := List.mem_map.mp ho
      trivial
    · rw [List.mem_singleton.mp ho]
      rfl
  | _ =>
    rw [List.mem_singleton.mp ho]
    trivial

/-- Only a history with a close in it has one when its batches are taken apart. -/
theorem close_mem_of_mem_unbatch {ops : List Operation} (h : Operation.close ∈ unbatch ops) :
    Operation.close ∈ ops := by
  obtain ⟨o, hmem, ho⟩ := List.mem_flatMap.mp h
  cases o with
  | updateAll states force => simp [Operation.unbatch] at ho
  | close => exact hmem
  | _ => simp [Operation.unbatch] at ho

/-- Delivering states one by one is `updateEach`. -/
theorem run_map_update (r : Repository) (states : List FeatureState) (force : Bool) :
    r.run (states.map (.update · force)) = r.updateEach states force := by
  induction states generalizing r with
  | nil => rfl
  | cons s states ih => exact ih (r.updateFeature s force).1

/-! ### A sample -/

/-- An identity with the same digit everywhere. -/
def sampleId (n : Fin 16) : Uuid := ⟨List.replicate 32 n, rfl⟩

/-- A flag that is on. -/
def sampleFlag (n : Fin 16) (key : String) (version : Int) : FeatureState where
  id := sampleId n
  key := key
  version := some version
  valueType := some .boolean
  value := some (.bool true)
  locked := false
  strategies := []
  environmentId := none

end FeatureFlags.Repository
