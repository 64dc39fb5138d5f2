import FeatureFlags.Edge.Event
import FeatureFlags.Json.Reader
import FeatureFlags.Proofs.Repository.Journal

/-!
# Malformed events

What an event does to the repository that it is applied to, when its text or a part of it cannot
be read. Applying an event works on the repository in place, access by access, and may break off
(`applyInPlace`); where it breaks off nothing was changed yet (`run_applyInPlace`).

The items of a batch are read one by one, and one that is no feature is left out. To be left out
it has to be a JSON value, though: an item with a number beyond the range of floating point
numbers, with a string that is no text or with too many levels takes the whole batch with it
(`isIsolated_iff`), also where a lone feature with the same part would be accepted because nobody
looks at that part.
-/

set_option autoImplicit false

namespace FeatureFlags.Edge

open Json

/-! ### Events that are applied in place -/

/-- Why an event is refused. -/
inductive EventError where
  /-- Its text cannot be read. -/
  | unreadable
deriving DecidableEq, Repr

/-- What works on a repository in place and may break off in the middle. -/
abbrev InPlace (α : Type) := ExceptT EventError (StateM Repository) α

/-- Reads a text, or breaks off. -/
def readText {α : Type} (decode : Decoder α) (data : String) : InPlace α :=
  match (Document.ofText? data).bind (decode .text) with
  | some x => pure x
  | none => throw .unreadable

/-- Applies the text of an event in place, access by access. -/
def applyInPlace (kind : EventKind) (data : String) : InPlace Unit :=
  match kind with
  | .features => do
    let items ← readText FeatureState.decodeList data
    modify fun r => r.logErrors (Lenient.countMalformed items)
    modify fun r => r.updateFeatures (Lenient.parsedOnly items) false
  | .feature => do
    let s ← readText FeatureState.decode data
    modify fun r => (r.updateFeature s false).1
  | .deleteFeature => do
    let s ← readText FeatureState.decode data
    modify fun r => r.deleteFeature s
  | .failure => modify Repository.fail
  | .ack | .bye | .config => pure ()

/-- An event that breaks off did so before it changed anything. -/
theorem run_applyInPlace (kind : EventKind) (data : String) (r : Repository) :
    (applyInPlace kind data).run.run r =
      match applyEvent? kind data r with
      | some r' => (.ok (), r')
      | none => (.error .unreadable, r) := by
  cases kind with
  | features =>
    unfold applyInPlace applyEvent? readText
    cases Document.ofText? data with
    | none => rfl
    | some d =>
      cases h : FeatureState.decodeList .text d <;> simp [h] <;> rfl
  | feature | deleteFeature =>
    unfold applyInPlace applyEvent? readText
    cases Document.ofText? data with
    | none => rfl
    | some d =>
      cases h : FeatureState.decode .text d <;> simp [h] <;> rfl
  | _ => rfl

/-! ### Lists with malformed items -/

section Lists

variable {α : Type} {item : Decoder α} {room : Room}

/-- An item that is a value is read, if only as what stands there. -/
theorem isSome_lenient (item : Decoder α) (room : Room) (d : Document) :
    (Lenient.decode item room d).isSome = (d.value? room).isSome := by
  unfold Lenient.decode
  cases d.value? room with
  | none => rfl
  | some v => cases item .unlimited d <;> rfl

/-- Two readings in a row come to something exactly if both do. -/
theorem isSome_bind_bind {β γ δ : Type} (x : Option β) (y : Option γ) (f : β → γ → δ) :
    (x.bind fun a => y.bind fun b => some (f a b)).isSome = (x.isSome && y.isSome) := by
  cases x <;> cases y <;> rfl

/-- A list is read if all of its items are values. -/
theorem isSome_each_lenient (item : Decoder α) (room : Room) (ds : List Document) :
    (Decoder.each (Lenient.decode item room) ds).isSome = (Document.values? room ds).isSome := by
  induction ds with
  | nil => rfl
  | cons d ds ih =>
    calc (Decoder.each (Lenient.decode item room) (d :: ds)).isSome
      _ = ((Lenient.decode item room d).isSome &&
            (Decoder.each (Lenient.decode item room) ds).isSome) := isSome_bind_bind _ _ List.cons
      _ = ((d.value? room).isSome && (Document.values? room ds).isSome) := by
          rw [isSome_lenient, ih]
      _ = (Document.values? room (d :: ds)).isSome := by
          rw [Document.values?, Option.bind_eq_bind]
          exact (isSome_bind_bind _ _ List.cons).symm

/-- What is read leniently is what is read, or nothing. -/
theorem toOption_lenient {d : Document} {l : Lenient α} (h : Lenient.decode item room d = some l) :
    l.toOption = item .unlimited d := by
  obtain ⟨v, -, hl⟩ := Option.bind_eq_some_iff.mp h
  cases hd : item .unlimited d <;> rw [hd] at hl <;> rw [← Option.some.inj hl] <;> rfl

/-- What is left of a list that was read: the items that can be decoded, in order. -/
theorem toOption_of_each {ds : List Document} {ls : List (Lenient α)}
    (h : Decoder.each (Lenient.decode item room) ds = some ls) :
    ls.map Lenient.toOption = ds.map (item .unlimited) := by
  induction ds generalizing ls with
  | nil => cases h; rfl
  | cons d ds ih =>
    obtain ⟨l, hl, h⟩ := Option.bind_eq_some_iff.mp h
    obtain ⟨rest, hrest, h⟩ := Option.bind_eq_some_iff.mp h
    cases h
    rw [List.map_cons, List.map_cons, toOption_lenient hl, ih hrest]

/-- Of the items that are read leniently those that can be read are left. -/
theorem parsedOnly_of_each {ds : List Document} {ls : List (Lenient α)}
    (h : Decoder.each (Lenient.decode item room) ds = some ls) :
    Lenient.parsedOnly ls = ds.filterMap (item .unlimited) := by
  have hsome := congrArg (List.filterMap id) (toOption_of_each h)
  simpa [Lenient.parsedOnly, List.filterMap_map] using hsome

/-- The malformed items are those that cannot be read. -/
theorem countMalformed_of_each {ds : List Document} {ls : List (Lenient α)}
    (h : Decoder.each (Lenient.decode item room) ds = some ls) :
    Lenient.countMalformed ls = ds.countP fun d => (item .unlimited d).isNone := by
  have hnone := congrArg (List.countP Option.isNone) (toOption_of_each h)
  simpa [Lenient.countMalformed, List.countP_map, Function.comp_def] using hnone

end Lists

/-! ### Batches with malformed items -/

/-- The effect of a batch is the one of its features alone, in their order: the other items only
count as errors in the log. -/
def IsIsolated (data : String) (items : List Document) : Prop :=
  ∀ r : Repository, (applyInPlace .features data).run.run r =
    (.ok (), (r.updateFeatures (items.filterMap (FeatureState.decode .unlimited)) false).logErrors
      (items.countP fun d => (FeatureState.decode .unlimited d).isNone))

section Batches

variable {data : String} {items : List Document}

/-- The items of a batch are read one by one and leniently. -/
theorem decodeList_text (items : List Document) : FeatureState.decodeList .text (.array items) =
    Decoder.each (Lenient.decode FeatureState.decode (.levels 126)) items := rfl

/-- A batch whose items are read logs those that are malformed and takes in the others. -/
theorem applyEvent?_features (h : Document.ofText? data = some (.array items)) (r : Repository) :
    applyEvent? .features data r =
      (Decoder.each (Lenient.decode FeatureState.decode (.levels 126)) items).map fun ls =>
        (r.logErrors (Lenient.countMalformed ls)).updateFeatures (Lenient.parsedOnly ls) false := by
  unfold applyEvent?
  simp only [h, Option.bind_eq_bind, Option.bind_some, decodeList_text]
  exact Option.map_eq_bind.symm

/-- An array is a value exactly if all its items are. -/
theorem isSome_ofText?_array (h : Document.ofText? data = some (.array items)) :
    (Json.ofText? data).isSome = (Document.values? (.levels 126) items).isSome := by
  unfold Json.ofText?
  rw [h]
  show ((Document.values? (.levels 126) items).bind _).isSome = _
  cases Document.values? (.levels 126) items <;> rfl

/-- The malformed items of a batch leave the others alone if the batch as a whole is a value. -/
theorem isIsolated_of_isSome (h : Document.ofText? data = some (.array items))
    (hv : (Json.ofText? data).isSome) : IsIsolated data items := by
  intro r
  rw [isSome_ofText?_array h, ← isSome_each_lenient FeatureState.decode] at hv
  obtain ⟨ls, hls⟩ := Option.isSome_iff_exists.mp hv
  rw [run_applyInPlace, applyEvent?_features h, hls]
  simp only [Option.map_some]
  rw [Repository.updateFeatures_logErrors, parsedOnly_of_each hls, countMalformed_of_each hls]

/-- A batch that is no value breaks off. -/
theorem run_applyInPlace_of_isNone (h : Document.ofText? data = some (.array items))
    (hv : Json.ofText? data = none) (r : Repository) :
    (applyInPlace .features data).run.run r = (.error .unreadable, r) := by
  have hls : Decoder.each (Lenient.decode FeatureState.decode (.levels 126)) items = none := by
    rw [← Option.not_isSome_iff_eq_none, isSome_each_lenient, ← isSome_ofText?_array h, hv]
    decide
  rw [run_applyInPlace, applyEvent?_features h, hls]
  rfl

/-- The effect of a batch is that of its features alone exactly if its text is a value. -/
theorem isIsolated_iff (h : Document.ofText? data = some (.array items)) :
    IsIsolated data items ↔ (Json.ofText? data).isSome := by
  refine ⟨fun hi => ?_, isIsolated_of_isSome h⟩
  cases hv : Json.ofText? data with
  | some v => rfl
  | none =>
    have hrun := run_applyInPlace_of_isNone h hv .new
    rw [hi .new] at hrun
    cases (Prod.mk.inj hrun).1

end Batches

/-- The keys of the features in a batch, item by item. -/
def batchKeys? (data : String) : Option (List (Option String)) :=
  match Document.ofText? data with
  | some (.array items) =>
    some (items.map fun d => (FeatureState.decode .unlimited d).map (·.key))
  | _ => none

/-- Keys that are found in a batch are those of its items. -/
theorem exists_of_batchKeys? {data : String} {keys : List (Option String)}
    (h : batchKeys? data = some keys) : ∃ items, Document.ofText? data = some (.array items) ∧
      (items.map fun d => (FeatureState.decode .unlimited d).map (·.key)) = keys := by
  unfold batchKeys? at h
  split at h
  · exact ⟨_, ‹_›, Option.some.inj h⟩
  · cases h

/-- Malformed events: one that breaks off changes nothing, and the malformed items of a batch
leave the others alone if and only if the batch as a whole is a value. -/
theorem malformed_isolated_iff (kind : EventKind) (data : String) :
    (∀ (r r' : Repository) (e : EventError),
      (applyInPlace kind data).run.run r = (.error e, r') → r' = r) ∧
    ∀ items : List Document, Document.ofText? data = some (.array items) →
      (IsIsolated data items ↔ (Json.ofText? data).isSome) := by
  refine ⟨fun r r' e h => ?_, fun items h => isIsolated_iff h⟩
  rw [run_applyInPlace] at h
  cases ha : applyEvent? kind data r with
  | none =>
    rw [ha] at h
    exact (Prod.mk.inj h).2.symm
  | some x =>
    rw [ha] at h
    exact absurd (Prod.mk.inj h).1 (by simp)

/-- A batch of an item that is no feature and one that is. -/
def mixedBatch : String :=
  "[\x7b\"id\":\"broken\"\x7d,\x7b\"id\":\"11111111111111111111111111111111\",\"key\":\"a\"\x7d]"

/-- A text that breaks off changes nothing, and an item that is no feature is left out of its
batch. -/
theorem malformed_isolated_mixed :
    (∃ r', (applyInPlace .feature "\x7b").run.run .new = (.error .unreadable, r') ∧ r' = .new) ∧
    ∃ items, Document.ofText? mixedBatch = some (.array items) ∧
      (items.map fun d => (FeatureState.decode .unlimited d).map (·.key)) = [none, some "a"] ∧
      IsIsolated mixedBatch items := by
  constructor
  · have htext : (Document.ofText? "\x7b").isNone := by decide +kernel
    have hrun : (applyInPlace .feature "\x7b").run.run .new = (.error .unreadable, .new) := by
      rw [run_applyInPlace]
      simp [applyEvent?, Option.isNone_iff_eq_none.mp htext]
    exact ⟨_, hrun, (malformed_isolated_iff .feature _).1 _ _ _ hrun⟩
  · obtain ⟨items, hitems, hkeys⟩ :=
      exists_of_batchKeys? (show batchKeys? mixedBatch = some [none, some "a"] by decide +kernel)
    have hvalue : (Json.ofText? mixedBatch).isSome := by decide +kernel
    exact ⟨items, hitems, hkeys, ((malformed_isolated_iff .features _).2 _ hitems).mpr hvalue⟩

/-- A batch of a feature and an item that is no feature, with a number beyond the range of
floating point numbers. -/
def lostBatch : String :=
  "[\x7b\"id\":\"11111111111111111111111111111111\",\"key\":\"a\"\x7d,\x7b\"weight\":1e400\x7d]"

/-- An item with a number that is too large takes the feature beside it along. -/
theorem huge_number_loses_batch : ∃ items, Document.ofText? lostBatch = some (.array items) ∧
    (items.map fun d => (FeatureState.decode .unlimited d).map (·.key)) = [some "a", none] ∧
    (∀ r : Repository, (applyInPlace .features lostBatch).run.run r = (.error .unreadable, r)) ∧
    ¬ IsIsolated lostBatch items := by
  obtain ⟨items, hitems, hkeys⟩ :=
    exists_of_batchKeys? (show batchKeys? lostBatch = some [some "a", none] by decide +kernel)
  have hvalue : ¬ (Json.ofText? lostBatch).isSome := by decide +kernel
  refine ⟨items, hitems, hkeys,
    run_applyInPlace_of_isNone hitems (Option.not_isSome_iff_eq_none.mp hvalue), ?_⟩
  rwa [isIsolated_iff hitems]

end FeatureFlags.Edge
