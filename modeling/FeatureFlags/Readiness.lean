import FeatureFlags.Feature.Wire

/-!
# Readiness

Whether the features that are known locally can be relied on, and the futures through which
callers learn of it. A future is identified by a ticket. It is open until it is answered, and its
first answer counts; a future whose promise is given up is answered by its own fallback.

The record of all answers is kept, so that "answered at most once" can be said of a run.
-/

set_option autoImplicit false

namespace FeatureFlags

/-- Whether the features that are known locally can be relied on. -/
inductive Readiness where
  /-- Nothing is known yet, or what is known does not belong to the context. -/
  | notReady
  /-- The features can be relied on. -/
  | ready
  /-- The server could not be asked, or refused to answer. -/
  | failed
deriving DecidableEq, Repr, Inhabited

namespace Readiness

/-- The names of the values. -/
def names : List (String × Readiness) :=
  [("NotReady", .notReady), ("Ready", .ready), ("Failed", .failed)]

/-- The name of a value. -/
def name (r : Readiness) : String := nameOf names r

/-- Reads a value. -/
def decode : Json.Decoder Readiness := .oneOf names

end Readiness

/-- The identity of a future. -/
abbrev Ticket := Nat

/-- All futures that were made, with the record of the answers they got. -/
structure Futures where
  /-- The fallback of every future; its ticket is its place. -/
  fallbacks : List Readiness
  /-- Who was answered with what, in order. -/
  answers : List (Ticket × Readiness)
deriving DecidableEq, Repr

namespace Futures

/-- No futures. -/
def empty : Futures := ⟨[], []⟩

instance : Inhabited Futures := ⟨empty⟩

/-- The ticket of the next future. -/
def nextTicket (f : Futures) : Ticket := f.fallbacks.length

/-- Makes an open future, whose ticket is `nextTicket`. -/
def add (f : Futures) (fallback : Readiness) : Futures :=
  { f with fallbacks := f.fallbacks ++ [fallback] }

/-- Answers a future. -/
def answer (f : Futures) (t : Ticket) (r : Readiness) : Futures :=
  { f with answers := f.answers ++ [(t, r)] }

/-- Answers futures alike, in order. -/
def answerAll (f : Futures) (ts : List Ticket) (r : Readiness) : Futures :=
  ts.foldl (fun f t => f.answer t r) f

/-- The fallback of a future. -/
def fallback (f : Futures) (t : Ticket) : Readiness := f.fallbacks[t]?.getD .notReady

/-- Gives up the promise to answer a future. -/
def giveUp (f : Futures) (t : Ticket) : Futures := f.answer t (f.fallback t)

/-- Gives up the promises to answer futures, in order. -/
def giveUpAll (f : Futures) (ts : List Ticket) : Futures := ts.foldl giveUp f

/-- The first answer a future got; none if it is open. -/
def result? (f : Futures) (t : Ticket) : Option Readiness :=
  (f.answers.find? fun a => a.1 = t).map Prod.snd

/-- Makes a future that is answered at once, whose ticket is `nextTicket`. -/
def addAnswered (f : Futures) (r : Readiness) : Futures := (f.add r).answer f.nextTicket r

/-- Further answers change no result. -/
theorem result?_of_prefix {f f' : Futures} (h : f.answers <+: f'.answers) {t : Ticket}
    {r : Readiness} (ht : f.result? t = some r) : f'.result? t = some r := by
  obtain ⟨more, hmore⟩ := h
  unfold result? at *
  rw [Option.map_eq_some_iff] at ht ⊢
  obtain ⟨a, ha, rfl⟩ := ht
  exact ⟨a, by rw [← hmore, List.find?_append, ha, Option.some_or], rfl⟩

/-- An answer counts if the future is open. -/
theorem result?_answer (f : Futures) (u : Ticket) (r : Readiness) (t : Ticket) :
    (f.answer u r).result? t = (f.result? t).or (if t = u then some r else none) := by
  unfold result? answer
  rw [List.find?_append, Option.map_or]
  by_cases h : t = u <;> simp [h, eq_comm]

/-- The same answer to several futures counts for those of them that are open. -/
theorem result?_answerAll (f : Futures) (ts : List Ticket) (r : Readiness) (t : Ticket) :
    (f.answerAll ts r).result? t = (f.result? t).or (if t ∈ ts then some r else none) := by
  unfold answerAll
  induction ts generalizing f with
  | nil => simp
  | cons u ts ih =>
    rw [List.foldl_cons, ih, result?_answer, Option.or_assoc]
    by_cases hu : t = u <;> simp [hu]

/-- A future is open as long as nobody answers it. -/
theorem result?_eq_none_iff (f : Futures) (t : Ticket) :
    f.result? t = none ↔ t ∉ f.answers.map Prod.fst := by
  unfold result?
  rw [Option.map_eq_none_iff, List.find?_eq_none, List.mem_map]
  constructor
  · rintro h ⟨a, ha, rfl⟩
    exact h a ha (by simp)
  · intro h a ha ht
    exact h ⟨a, ha, by simpa using ht⟩

/-- All of the futures are answered, after those that were answered before. -/
theorem map_fst_answers_answerAll (f : Futures) (ts : List Ticket) (r : Readiness) :
    (f.answerAll ts r).answers.map Prod.fst = f.answers.map Prod.fst ++ ts := by
  unfold answerAll
  induction ts generalizing f with
  | nil => simp
  | cons t ts ih =>
    rw [List.foldl_cons, ih]
    simp [answer]

/-- Futures whose promises are given up are answered by fallbacks of their own. -/
theorem result?_giveUpAll (f : Futures) (ts : List Ticket) (t : Ticket) :
    (f.giveUpAll ts).result? t =
      (f.result? t).or (if t ∈ ts then some (f.fallback t) else none) := by
  unfold giveUpAll
  induction ts generalizing f with
  | nil => simp
  | cons u ts ih =>
    have hfallback : (f.giveUp u).fallback t = f.fallback t := rfl
    rw [List.foldl_cons, ih, hfallback, giveUp, result?_answer, Option.or_assoc]
    by_cases hu : t = u <;> simp [hu]

/-- No answer makes a future. -/
@[simp] theorem nextTicket_answerAll (f : Futures) (ts : List Ticket) (r : Readiness) :
    (f.answerAll ts r).nextTicket = f.nextTicket := by
  unfold answerAll
  induction ts generalizing f with
  | nil => rfl
  | cons u ts ih => exact ih (f.answer u r)

/-- No fallback makes a future. -/
@[simp] theorem nextTicket_giveUpAll (f : Futures) (ts : List Ticket) :
    (f.giveUpAll ts).nextTicket = f.nextTicket := by
  unfold giveUpAll
  induction ts generalizing f with
  | nil => rfl
  | cons u ts ih => exact ih (f.giveUp u)

/-- A future is one more. -/
@[simp] theorem nextTicket_add (f : Futures) (r : Readiness) :
    (f.add r).nextTicket = f.nextTicket + 1 := by
  simp [nextTicket, add]

end Futures

end FeatureFlags
