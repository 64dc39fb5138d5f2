import FeatureFlags.Proofs.Polling.Queues

/-!
# What an edge says of its end

An edge makes no further request after a server that asked to stop, after a rejection, and after
it was closed (`Ending`). Only the first of these is what `isStopped` tells of. Whatever has ended
the requests first is the last that the edge hears of, for no answer comes later, so that what it
says afterwards is settled by it (`IsMarked`). All this is said without the futures, so that it
holds as well of an edge whose futures somebody else makes and answers.
-/

set_option autoImplicit false

namespace FeatureFlags.Edge

/-- What is seen first along a run. -/
def firstSeen {S E A : Type} (step : S → E → S) (see : S → E → Option A) (s : S) :
    List E → Option A
  | [] => none
  | e :: es => (see s e).or (firstSeen step see (step s e) es)

/-- What is seen first in a run with one more event was seen before, or is seen at this event. -/
theorem firstSeen_concat {S E A : Type} (step : S → E → S) (see : S → E → Option A) (s : S)
    (es : List E) (e : E) :
    firstSeen step see s (es ++ [e]) =
      (firstSeen step see s es).or (see (es.foldl step s) e) := by
  induction es generalizing s with
  | nil => simp [firstSeen]
  | cons e' es ih => simp [firstSeen, ih, Option.or_assoc]

namespace Polling

/-- What ends all requests of an edge. -/
inductive Ending where
  /-- The server asks to stop, with an answer that can be read. -/
  | asked
  /-- The server rejects the client. -/
  | rejected
  /-- The edge is closed. -/
  | closed
deriving DecidableEq, Repr

/-- The end of all requests that an event brings, if it brings one. -/
def ending? (p : Polling) : Event → Option Ending
  | .respond response =>
    if p.inFlight = [] then none
    else if isRejection response.status then some .rejected
    else if response.status == stopStatus && (delivered? response).isSome then some .asked
    else none
  | .close => some .closed
  | _ => none

/-- What ends all requests first in a run. -/
def firstEnding? (p : Polling) (es : List Event) : Option Ending := firstSeen step ending? p es

variable {p : Polling}

/-! ### The flags -/

/-- Only what ends all requests takes away the permission to make them. -/
theorem canRequest_step (p : Polling) (e : Event) :
    (p.step e).canRequest = (p.canRequest && (p.ending? e).isNone) := by
  have hflags : ∀ h : Holdings, (p.step e).holdings = h →
      (p.step e).canRequest = (h.mayRequest && !h.isStopped) := by
    rintro _ rfl
    rfl
  rw [hflags _ (holdings_step p e)]
  cases e with
  | respond response =>
    simp only [heldAfter, ending?]
    split
    · exact (Bool.and_true _).symm
    · refine (canRequest_heed p response).trans (congrArg (p.canRequest && ·) ?_)
      unfold isFinal
      cases isRejection response.status <;>
        cases response.status == stopStatus && (delivered? response).isSome <;> rfl
  | breakOff =>
    simp only [heldAfter]
    split <;> exact (Bool.and_true _).symm
  | close => exact (Bool.and_false _).symm
  | _ => exact (Bool.and_true _).symm

/-- Only a server that asks to stop makes an edge say that it is stopped. -/
theorem isStopped_step (p : Polling) (e : Event) :
    (p.step e).isStopped = (p.isStopped || p.ending? e == some .asked) := by
  refine (congrArg Holdings.isStopped (holdings_step p e)).trans ?_
  cases e with
  | respond response =>
    simp only [heldAfter, ending?]
    split
    · exact (Bool.or_false _).symm
    · refine congrArg (p.isStopped || ·) ?_
      cases hdelivered : delivered? response with
      | none => cases isRejection response.status <;> simp
      | some es =>
        -- an answer that was read is no rejection
        rw [isRejection_of_isSuccess (isSuccess_of_delivered hdelivered).1]
        cases response.status == stopStatus <;> rfl
  | breakOff =>
    simp only [heldAfter]
    split <;> exact (Bool.or_false _).symm
  | _ => exact (Bool.or_false _).symm

/-! ### Requests are only made when they are allowed -/

namespace Traffic

variable {t t' : Traffic} {e : Event} {ks : List Ticket}

/-- Whether one request at most is under way, and only while requests are allowed. -/
structure IsSingle (t : Traffic) : Prop where
  /-- At most one request is under way. -/
  single : t.inFlight.length ≤ 1
  /-- An edge that is not busy has no request under way. -/
  idle : t.isBusy = false → t.inFlight = []
  /-- No request is under way that is not allowed. -/
  allowed : t.canRequest = false → t.inFlight = []

/-- No request is at most one. -/
theorem IsSingle.of_nil (h : t.inFlight = []) : t.IsSingle :=
  ⟨by simp [h], fun _ => h, fun _ => h⟩

/-- Besides a request under way there is no other. -/
theorem IsSingle.rest_eq_nil (h : t.IsSingle) {q : Request} {rest : List Request}
    (hi : t.inFlight = q :: rest) : rest = [] := by
  have hsingle := h.single
  rw [hi, List.length_cons] at hsingle
  exact List.eq_nil_of_length_eq_zero (by omega)

/-- Checking whether to ask sends one request at most. -/
theorem Checked.isSingle (h : t.Checked ks t') (hi : t.inFlight = []) : t'.IsSingle := by
  cases h with
  | ask hc =>
    exact ⟨by simp [Traffic.ask, hi], fun hb => absurd hb.symm Bool.false_ne_true,
      fun hnot => absurd (hnot.symm.trans hc) Bool.false_ne_true⟩
  | settle => exact .of_nil hi

/-- The end of a request is followed by one request at most. -/
theorem Finished.isSingle (h : t.Finished t') (hi : t.inFlight = []) : t'.IsSingle := by
  cases h with
  | alone => exact .of_nil hi
  | again _ hc => exact hc.isSingle hi

/-- Every move keeps to one request at a time. -/
theorem IsSingle.of_moves (h : t.IsSingle) (hm : t.Moves e t') : t'.IsSingle := by
  cases hm with
  | quiet => exact h
  | join => exact ⟨by simpa using h.single, by simpa using h.idle, by simpa using h.allowed⟩
  | check _ hb hc => exact hc.isSingle ((inFlight_enter t e).trans (h.idle hb))
  | lose _ hi => exact .of_nil (h.rest_eq_nil hi)
  | finish _ hi _ hf => exact hf.isSingle (h.rest_eq_nil hi)
  | close hf => exact hf.isSingle rfl

end Traffic

/-! ### What is said of the end -/

/-- What an edge holds and says of the end of its requests. The last argument says what has ended
them first. -/
structure IsMarked (p : Polling) (first : Option Ending) : Prop where
  /-- One request at most is under way. -/
  isSingle : p.traffic.IsSingle
  /-- Requests are allowed as long as nothing has ended them. -/
  canRequest_eq : p.canRequest = first.isNone
  /-- The edge says that it is stopped if the server has asked for it. -/
  isStopped_eq : p.isStopped = (first == some .asked)

/-- Nothing is under way after the end. -/
theorem IsMarked.inFlight_eq_nil {x : Ending} (h : p.IsMarked (some x)) : p.inFlight = [] :=
  h.isSingle.allowed h.canRequest_eq

/-- After the end an edge can only be closed. -/
theorem IsMarked.ending?_ne {x : Ending} (h : p.IsMarked (some x)) (e : Event) :
    (p.ending? e == some .asked) = false := by
  cases e with
  | respond response =>
    rw [ending?, if_pos h.inFlight_eq_nil]
    rfl
  | _ => rfl

/-- Every step keeps the marks of what has ended the requests first. -/
theorem IsMarked.step {first : Option Ending} (h : p.IsMarked first) (e : Event) :
    (p.step e).IsMarked (first.or (p.ending? e)) where
  isSingle := h.isSingle.of_moves (moves_step p e)
  canRequest_eq := by
    rw [canRequest_step, h.canRequest_eq]
    cases first <;> rfl
  isStopped_eq := by
    rw [isStopped_step, h.isStopped_eq]
    cases first with
    | none => rfl
    | some x =>
      rw [h.ending?_ne e, Bool.or_false]
      rfl

/-- Nothing has ended the requests of a fresh edge. -/
theorem IsFresh.isMarked (h : p.IsFresh) : p.IsMarked none := by
  obtain ⟨shared, edgeUrl, apiKeys, interval, isDelegated, rfl, -⟩ := h
  exact ⟨.of_nil rfl, rfl, rfl⟩

/-- Every run keeps the marks of what has ended the requests first. -/
theorem IsMarked.run {first : Option Ending} (h : p.IsMarked first) (es : List Event) :
    (p.run es).IsMarked (first.or (p.firstEnding? es)) := by
  induction es using List.reverseRecOn with
  | nil => simpa [firstEnding?, firstSeen] using h
  | append_singleton es e ih =>
    rw [run_concat, firstEnding?, firstSeen_concat, ← Option.or_assoc]
    exact ih.step e

/-- An edge that has ended its requests says from then on that it is stopped exactly if the
server has asked for it first. -/
theorem IsMarked.isStopped_iff {x : Ending} (h : p.IsMarked (some x)) :
    (∀ later, (p.run later).isStopped = true) ↔ x = .asked := by
  have hstopped : ∀ later, (p.run later).isStopped = (some x == some .asked) :=
    fun later => (h.run later).isStopped_eq
  simp [hstopped]

end Polling

end FeatureFlags.Edge
