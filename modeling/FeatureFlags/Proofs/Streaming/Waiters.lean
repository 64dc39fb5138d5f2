import FeatureFlags.Proofs.Edge.Desk
import FeatureFlags.Proofs.Repository.Readiness
import FeatureFlags.Proofs.Streaming.Reconnection

/-!
# Who waits for a streaming edge

A caller of a streaming edge is answered at once, or waits for news. Each act is a turn of the desk
at which callers are served (`attends_act`): an act that is news answers all who wait, with the
readiness that it leaves, and a caller comes to the desk after that.

Nobody waits for an edge without a connection: whoever loses the connection for good tells those
who wait, and a caller who cannot be given a connection is told at once. So each future is
answered once, by the first news (`every_future_completes`).
-/

set_option autoImplicit false

namespace FeatureFlags.Edge.Streaming

/-- What callers see of an edge. -/
def desk (s : Streaming) : Desk := ⟨s.shared.futures, s.waiters⟩

/-! ### News -/

/-- Whether an event is news to those who wait. -/
def isNews : EventKind → Bool
  | .ack | .config => false
  | _ => true

/-- Whether the name of an event is that of news. -/
def bringsNews (name : String) : Bool := (EventKind.ofName? name).any isNews

/-- Whether an act is news to those who wait: such an event, the end of a connection that is not
replaced at once, or the end of the edge. -/
def isHeard (s : Streaming) : Act → Bool
  | .receive generation name _ _ => (s.connection? generation).isSome && bringsNews name
  | .straggle generation name _ _ => s.hasGivenUp generation && bringsNews name
  | .finish generation _ _ => (s.connection? generation).isSome
  | .trail c _ _ => s.hasGivenUp c.generation
  | .changeContext header _ =>
    s.isServerEvaluated && s.header != header && s.isConnected && s.line.isOver
  | .close => !s.isClosed
  | _ => false

/-- What those who wait hear from an act: the readiness after it, if it is news. -/
def told (s : Streaming) (a : Act) : Option Readiness :=
  if s.isHeard a then some (s.act a).shared.readiness else none

/-- What those who wait hear first in a run. -/
def firstTold (s : Streaming) : List Act → Option Readiness
  | [] => none
  | a :: later => (s.told a).or ((s.act a).firstTold later)

/-- The future that a caller gets. -/
def handedOut? (s : Streaming) : Act → Option Ticket
  | .poll => some s.poll.2
  | .changeContext header sha => some (s.changeContext header sha).2
  | _ => none

/-- Whether an act leaves the futures to the edge. -/
def Act.LeavesFutures : Act → Prop
  | .modifyShared f => ∀ shared, (f shared).futures = shared.futures
  | _ => True

/-- Whether those who wait have a connection to hear from. -/
def IsAwaited (s : Streaming) : Prop := s.waiters = [] ∨ s.current.isSome

/-- From one edge to another the desk has taken a turn, and whoever waits has a connection. -/
structure Attends (s : Streaming) (told : Option Readiness) (caller : Option Ticket)
    (s' : Streaming) : Prop where
  turn : s.desk.Turn s.shared.readiness told caller s'.desk
  isAwaited : s'.IsAwaited

/-- Without news those who wait have to keep the connection. -/
theorem Attends.of_hear {s s' : Streaming} {told : Option Readiness} (h : s.IsAwaited)
    (hdesk : s'.desk = s.desk.hear told)
    (hcurrent : told = none → s.current.isSome → s'.current.isSome) :
    Attends s told none s' := by
  refine ⟨hdesk ▸ .hear, ?_⟩
  cases told with
  | some r => exact .inl (congrArg Desk.waiters hdesk)
  | none =>
    have hwaiters : s'.waiters = s.waiters := congrArg Desk.waiters hdesk
    rcases h with hnone | hsome
    · exact .inl (hwaiters.trans hnone)
    · exact .inr (hcurrent rfl hsome)

/-- An edge that stays as it is leaves everybody waiting who waits. -/
theorem Attends.refl {s : Streaming} (h : s.IsAwaited) : Attends s none none s :=
  .of_hear h rfl fun _ => id

/-! ### Callers -/

/-- Connecting is of no concern to those who wait. -/
theorem desk_connect (s : Streaming) : s.connect.1.desk = s.desk := by
  unfold connect
  split <;> rfl

/-- A connection that counts as open stays so when somebody asks for one. -/
theorem isSome_connect {s : Streaming} (h : s.current.isSome) : s.connect.1.current.isSome := by
  have hline : s.connect.1.line = s.line := by
    rw [line_connect, h, Bool.or_true, if_pos rfl]
  have hcurrent : s.connect.1.current = s.current := congrArg Line.current hline
  rwa [hcurrent]

/-- A connection is made unless there is one or the edge is over. -/
theorem snd_connect (s : Streaming) : s.connect.2 = !(s.line.isOver || s.current.isSome) := by
  have hguard : (s.isClosed || s.retryer.isStopped || s.isConnected) =
      (s.line.isOver || s.current.isSome) := rfl
  unfold connect
  rw [hguard]
  split
  next h => rw [h, Bool.not_true]
  next h => rw [Bool.not_eq_true _ |>.mp h, Bool.not_false]

/-- Whoever waits for a connection gets the next ticket. -/
theorem ticket_waitForConnection (s : Streaming) :
    s.waitForConnection.2 = s.shared.futures.nextTicket := by
  unfold waitForConnection
  simp only
  split <;> rfl

/-- Without a connection the caller is seated, and if the edge is over everybody is answered. -/
theorem desk_waitForConnection {s : Streaming} (hnone : s.current = none) :
    s.waitForConnection.1.desk =
      if s.line.isOver then (s.desk.tell s.shared.readiness).serve s.shared.readiness
      else s.desk.seat s.shared.readiness := by
  have hsnd : s.wait.1.connect.2 = !s.line.isOver := by
    have hcurrent : s.wait.1.current = none := hnone
    rw [snd_connect, hcurrent, Option.isSome_none, Bool.or_false]
    rfl
  have hdesk : s.wait.1.connect.1.desk = s.desk.seat s.shared.readiness := desk_connect s.wait.1
  have hreadiness : s.wait.1.connect.1.shared.readiness = s.shared.readiness := by
    rw [shared_connect]
    rfl
  have hwait : s.waitForConnection.1 =
      if s.wait.1.connect.2 then s.wait.1.connect.1 else s.wait.1.connect.1.answerWaiters := by
    unfold waitForConnection
    simp only
    split <;> next hs => simp [hs]
  rw [hwait, hsnd]
  cases s.line.isOver with
  | false => exact hdesk
  | true =>
    show s.wait.1.connect.1.desk.tell s.wait.1.connect.1.shared.readiness = _
    rw [hdesk, hreadiness]
    exact s.desk.tell_seat s.shared.readiness

/-- A caller who finds no connection waits for one that is made, or is answered like those who
have waited for nothing. -/
theorem attends_waitForConnection {s s' : Streaming} {told : Option Readiness}
    (hdesk : s'.desk = s.desk) (hreadiness : s'.shared.readiness = s.shared.readiness)
    (hnone : s'.current = none)
    (htold : s.desk.hear told =
      if s'.line.isOver then s.desk.tell s.shared.readiness else s.desk) :
    Attends s told (some s.shared.futures.nextTicket) s'.waitForConnection.1 := by
  have hwait := desk_waitForConnection hnone
  rw [hdesk, hreadiness] at hwait
  cases hover : s'.line.isOver with
  | true =>
    rw [hover, if_pos rfl] at htold hwait
    rw [← htold] at hwait
    refine ⟨hwait ▸ .serve, .inl ?_⟩
    have hwaiters : s'.waitForConnection.1.waiters = (s.desk.hear told).waiters :=
      congrArg Desk.waiters hwait
    rw [hwaiters, htold]
    rfl
  | false =>
    rw [hover, if_neg Bool.false_ne_true] at htold hwait
    rw [← htold] at hwait
    refine ⟨hwait ▸ .seat, .inr ?_⟩
    have hcurrent : s'.waitForConnection.1.current = s'.connect.1.current :=
      congrArg Line.current (line_waitForConnection s')
    rw [hcurrent]
    exact isSome_current_connect hover

/-- Without a connection nobody waits, and there is nobody to tell. -/
theorem tell_of_current_eq_none {s : Streaming} (h : s.IsAwaited) (hnone : s.current = none)
    (r : Readiness) : s.desk.tell r = s.desk := by
  apply Desk.tell_of_waiters_eq_nil
  rcases h with hwaiters | hsome
  · exact hwaiters
  · rw [hnone] at hsome
    cases hsome

/-- Whoever waits for a connection is attended. -/
theorem attends_wait {s : Streaming} (h : s.IsAwaited) (hnone : s.current = none) :
    Attends s none (some s.waitForConnection.2) s.waitForConnection.1 := by
  rw [ticket_waitForConnection]
  apply attends_waitForConnection rfl rfl hnone
  rw [tell_of_current_eq_none h hnone, ite_self]
  rfl

/-- Whoever polls is attended. -/
theorem attends_poll {s : Streaming} (h : s.IsAwaited) :
    Attends s none (some s.poll.2) s.poll.1 := by
  unfold poll
  split
  next hguard =>
    have hnone : s.current = none := by
      simpa [isConnected] using (Bool.and_eq_true_iff.mp hguard).2
    exact attends_wait h hnone
  next =>
    have hdesk : (s.connect.1.answered s.shared.readiness).1.desk =
        s.desk.serve s.shared.readiness :=
      congrArg (Desk.serve · s.shared.readiness) (desk_connect s)
    have hticket : (s.connect.1.answered s.shared.readiness).2 =
        s.shared.futures.nextTicket :=
      congrArg (fun shared => shared.futures.nextTicket) (shared_connect s)
    rw [hticket]
    refine ⟨hdesk ▸ .serve, ?_⟩
    rcases h with hwaiters | hsome
    · exact .inl ((congrArg Desk.waiters hdesk).trans hwaiters)
    · exact .inr (isSome_connect hsome)

/-- A change of the context changes no readiness. -/
theorem readiness_changeContext (s : Streaming) (header : Option String) (sha : String) :
    (s.changeContext header sha).1.shared.readiness = s.shared.readiness :=
  congrArg Repository.readiness (repository_changeContext s header sha)

section

variable {s : Streaming} {header : Option String}

/-- Another header answers those who wait for the former connection only if there is to be no other
one. -/
theorem told_changeContext_of_other (hother : (s.isServerEvaluated && s.header != header) = true)
    (sha : String) :
    s.told (.changeContext header sha) =
      if s.isConnected && s.line.isOver then some s.shared.readiness else none := by
  have hheard : s.isHeard (.changeContext header sha) = (s.isConnected && s.line.isOver) := by
    rw [isHeard, hother, Bool.true_and]
  rw [told, hheard]
  exact congrArg (fun r => if s.isConnected && s.line.isOver then some r else none)
    (readiness_changeContext s header sha)

/-- The same header answers nobody who waits. -/
theorem told_changeContext_of_same (hsame : (s.isServerEvaluated && s.header != header) = false)
    (sha : String) : s.told (.changeContext header sha) = none := by
  rw [told, isHeard, hsame, Bool.false_and, Bool.false_and, if_neg Bool.false_ne_true]

/-- With another header the connection is given up, and those who wait for it wait for the next
one, if there is to be one. -/
theorem attends_changeContext_of_other (h : s.IsAwaited)
    (hother : (s.isServerEvaluated && s.header != header) = true) (sha : String) :
    Attends s (s.told (.changeContext header sha)) (some (s.changeContext header sha).2)
      (s.changeContext header sha).1 := by
  have hset : s.setContext header = { s with header := header }.disconnect := by
    rw [setContext, if_pos hother]
  have hchange : s.changeContext header sha =
      { s with header := header }.disconnect.waitForConnection := by
    unfold changeContext
    rw [hset]
    rfl
  rw [told_changeContext_of_other hother, hchange, ticket_waitForConnection]
  refine attends_waitForConnection rfl rfl rfl ?_
  show _ = if s.line.isOver then _ else _
  unfold isConnected
  cases hcurrent : s.current with
  | none =>
    rw [tell_of_current_eq_none h hcurrent, ite_self]
    rfl
  | some generation => cases s.line.isOver <;> rfl

/-- Whoever repeats the context is attended. -/
theorem attends_changeContext_of_same (h : s.IsAwaited)
    (hsame : (s.isServerEvaluated && s.header != header) = false) (sha : String) :
    Attends s (s.told (.changeContext header sha)) (some (s.changeContext header sha).2)
      (s.changeContext header sha).1 := by
  have hset : s.setContext header = s := by
    rw [setContext, hsame, if_neg Bool.false_ne_true]
  have hchange : s.changeContext header sha =
      if s.isConnected then s.answered s.shared.readiness else s.waitForConnection := by
    unfold changeContext
    rw [hset]
  rw [told_changeContext_of_same hsame, hchange]
  split
  next hconnected => exact ⟨.serve, .inr hconnected⟩
  next hconnected =>
    have hnone : s.current = none := by simpa [isConnected] using hconnected
    exact attends_wait h hnone

/-- Whoever changes the context is attended. -/
theorem attends_changeContext (h : s.IsAwaited) (header : Option String) (sha : String) :
    Attends s (s.told (.changeContext header sha)) (some (s.changeContext header sha).2)
      (s.changeContext header sha).1 := by
  cases hguard : s.isServerEvaluated && s.header != header with
  | true => exact attends_changeContext_of_other h hguard sha
  | false => exact attends_changeContext_of_same h hguard sha

end

/-! ### Events and ends of connections -/

/-- The end of a connection answers all who wait. -/
theorem desk_conclude (s : Streaming) (generation : Nat) (outcome : Outcome)
    (chances : Chance × Chance) :
    (s.conclude generation outcome chances).desk =
      s.desk.tell (s.conclude generation outcome chances).shared.readiness := by
  unfold conclude
  simp only
  split <;> rfl

/-- The end of a connection is a failure only if nothing else is known. -/
theorem readiness_conclude {s : Streaming} (h : s.shared.readiness ≠ .notReady)
    (generation : Nat) (outcome : Outcome) (chances : Chance × Chance) :
    (s.conclude generation outcome chances).shared.readiness = s.shared.readiness := by
  unfold conclude
  simp only [if_neg h]
  rfl

/-- The text of an event answers nobody. -/
theorem desk_applyText (s : Streaming) (kind : EventKind) (data : String) :
    (s.applyText kind data).desk = s.desk := by
  unfold applyText
  split
  · rfl
  · split <;> rfl

/-- The text of an event ends no connection. -/
theorem current_applyText (s : Streaming) (kind : EventKind) (data : String) :
    (s.applyText kind data).current = s.current := by
  unfold applyText
  split
  · rfl
  · split <;> rfl

/-- A failure is told once: the end of the connection that follows finds nobody who waits. -/
theorem desk_applyMessage_failure (s : Streaming) (generation : Nat) (data : String)
    (chances : Chance × Chance) :
    let s' := s.applyMessage generation .failure data chances
    s'.desk = s.desk.tell s'.shared.readiness := by
  intro s'
  have hfailed : (s.applyText .failure data).answerWaiters.shared.readiness = .failed :=
    Repository.readiness_fail s.shared.repository
  have hs' : s' = (s.applyText .failure data).answerWaiters.endConnection generation
      .apiKeyNotFound chances := rfl
  rw [hs', endConnection_eq_conclude]
  split
  · rfl
  · have hkept := readiness_conclude
      (s := (s.applyText .failure data).answerWaiters) (by rw [hfailed]; decide) generation
      .apiKeyNotFound chances
    rw [desk_conclude, hkept]
    rfl

/-- An event answers those who wait if it is one that is heard. -/
theorem desk_applyMessage (s : Streaming) (generation : Nat) (kind : EventKind) (data : String)
    (chances : Chance × Chance) :
    let s' := s.applyMessage generation kind data chances
    s'.desk = s.desk.hear (if isNews kind then some s'.shared.readiness else none) := by
  intro s'
  have htext := desk_applyText s kind data
  cases kind with
  | ack | config => exact htext
  | feature | deleteFeature | features | bye => exact congrArg (Desk.tell · _) htext
  | failure => exact desk_applyMessage_failure s generation data chances

/-- Those who wait for an event are attended when it is applied. -/
theorem attends_applyMessage {s : Streaming} (h : s.IsAwaited) (generation : Nat)
    (kind : EventKind) (data : String) (chances : Chance × Chance) :
    let s' := s.applyMessage generation kind data chances
    Attends s (if isNews kind then some s'.shared.readiness else none) none s' := by
  intro s'
  refine .of_hear h (desk_applyMessage s generation kind data chances) ?_
  intro hnone hsome
  have hcurrent := current_applyText s kind data
  cases kind with
  | ack | config =>
    rw [← hcurrent] at hsome
    exact hsome
  | _ => cases hnone

/-- What is heard tells the readiness that it leads to. -/
theorem told_of_isHeard_eq {s : Streaming} {a : Act} {b : Bool} (h : s.isHeard a = b) :
    s.told a = if b then some (s.act a).shared.readiness else none := by
  rw [told, h]

/-- An act that does nothing leaves everybody waiting who waits. -/
theorem attends_of_act_eq {s : Streaming} (h : s.IsAwaited) {a : Act}
    (hheard : s.isHeard a = false) (hact : s.act a = s) :
    Attends s (s.told a) none (s.act a) := by
  have htold : s.told a = none := told_of_isHeard_eq hheard
  rw [htold, hact]
  exact .refl h

/-- An act that is heard answers everybody who waits. -/
theorem attends_of_isHeard {s : Streaming} (h : s.IsAwaited) {a : Act}
    (hheard : s.isHeard a = true)
    (hdesk : (s.act a).desk = s.desk.tell (s.act a).shared.readiness) :
    Attends s (s.told a) none (s.act a) := by
  have htold : s.told a = some (s.act a).shared.readiness := told_of_isHeard_eq hheard
  rw [htold]
  exact .of_hear h hdesk fun hnone => nomatch hnone

/-- An event counts if there is, or was, a connection over which it came. -/
theorem attends_event {s : Streaming} (h : s.IsAwaited) {a : Act} {counts : Bool}
    {generation : Nat} {name data : String} {chances : Chance × Chance}
    (hact : s.act a =
      match counts, EventKind.ofName? name with
      | true, some kind => s.applyMessage generation kind data chances
      | _, _ => s)
    (hheard : s.isHeard a = (counts && bringsNews name)) :
    Attends s (s.told a) none (s.act a) := by
  cases counts with
  | false => exact attends_of_act_eq h hheard hact
  | true =>
    rw [Bool.true_and, bringsNews] at hheard
    cases hname : EventKind.ofName? name with
    | none =>
      rw [hname] at hact hheard
      exact attends_of_act_eq h hheard hact
    | some kind =>
      rw [hname] at hact hheard
      rw [told_of_isHeard_eq hheard, hact]
      exact attends_applyMessage h generation kind data chances

/-- What comes over an open connection attends those who wait. -/
theorem attends_receive {s : Streaming} (h : s.IsAwaited) (generation : Nat)
    (name data : String) (chances : Chance × Chance) :
    Attends s (s.told (.receive generation name data chances)) none
      (s.receive generation name data chances) := by
  have hact : s.receive generation name data chances =
      match (s.connection? generation).isSome, EventKind.ofName? name with
      | true, some kind => s.applyMessage generation kind data chances
      | _, _ => s := by
    unfold receive
    cases s.connection? generation with
    | none => rfl
    | some c => cases EventKind.ofName? name <;> rfl
  exact attends_event (a := .receive generation name data chances) h hact rfl

/-- The end of an open connection attends those who wait. -/
theorem attends_finish {s : Streaming} (h : s.IsAwaited) (generation : Nat) (ending : Ending)
    (chances : Chance × Chance) :
    Attends s (s.told (.finish generation ending chances)) none
      (s.finish generation ending chances) := by
  cases hfind : s.connection? generation with
  | none =>
    apply attends_of_act_eq (a := .finish generation ending chances) h
    · simp only [isHeard, hfind, Option.isSome_none]
    · simp only [act, finish, hfind]
  | some c =>
    have hact : s.act (.finish generation ending chances) =
        s.conclude generation (ending.outcome c) chances := by
      simp [act, finish, endConnection_eq_conclude, hfind]
    apply attends_of_isHeard (a := .finish generation ending chances) h
    · simp only [isHeard, hfind, Option.isSome_some]
    · rw [hact]
      exact desk_conclude s generation _ chances

/-- An end that is reported late attends those who wait. -/
theorem attends_trail {s : Streaming} (h : s.IsAwaited) (c : Connection) (ending : Ending)
    (chances : Chance × Chance) :
    Attends s (s.told (.trail c ending chances)) none (s.trail c ending chances) := by
  cases hgiven : s.hasGivenUp c.generation with
  | false =>
    apply attends_of_act_eq (a := .trail c ending chances) h hgiven
    simp [act, trail, hgiven]
  | true =>
    have hact : s.act (.trail c ending chances) =
        s.conclude c.generation (ending.outcome c) chances := by
      simp [act, trail, hgiven]
    apply attends_of_isHeard (a := .trail c ending chances) h hgiven
    rw [hact]
    exact desk_conclude s c.generation _ chances

/-- Closing attends those who wait. -/
theorem attends_close {s : Streaming} (h : s.IsAwaited) :
    Attends s (s.told .close) none s.close := by
  cases hclosed : s.isClosed with
  | true =>
    apply attends_of_act_eq (a := .close) h
    · simp [isHeard, hclosed]
    · exact close_of_isClosed hclosed
  | false =>
    apply attends_of_isHeard (a := .close) h
    · simp [isHeard, hclosed]
    · show s.close.desk = s.desk.tell s.close.shared.readiness
      simp only [close, hclosed, Bool.false_eq_true, if_false]
      rfl

/-- A reconnect leaves everybody waiting who waits. -/
theorem attends_wake {s : Streaming} (h : s.IsAwaited) : Attends s none none s.wake := by
  apply Attends.of_hear h
  · unfold wake
    split
    · exact desk_connect _
    · rfl
    · rfl
  · intro _ hsome
    unfold wake
    split
    · exact isSome_connect hsome
    · exact hsome
    · exact hsome

/-- Whatever happens, those who wait hear the news, a caller is answered or waits, and nobody
waits without a connection. -/
theorem attends_act {s : Streaming} (h : s.IsAwaited) {a : Act} (ha : a.LeavesFutures) :
    Attends s (s.told a) (s.handedOut? a) (s.act a) := by
  cases a with
  | poll => exact attends_poll h
  | changeContext header sha => exact attends_changeContext h header sha
  | receive generation name data chances => exact attends_receive h generation name data chances
  | finish generation ending chances => exact attends_finish h generation ending chances
  | straggle generation name data chances => exact attends_event h rfl rfl
  | trail c ending chances => exact attends_trail h c ending chances
  | wake => exact attends_wake h
  | close => exact attends_close h
  | report | configure => exact .of_hear h rfl fun _ => id
  | modifyShared f =>
    have hdesk : (s.act (.modifyShared f)).desk = s.desk :=
      congrArg (Desk.mk · s.waiters) (ha s.shared)
    exact .of_hear h hdesk fun _ => id

/-! ### Runs -/

variable {base : Nat} {s : Streaming}

/-- A run that leaves the futures to the edge keeps the desk fair. -/
theorem fair_run (hfair : s.desk.IsFair base) (hawaited : s.IsAwaited) {acts : List Act}
    (hacts : ∀ a ∈ acts, a.LeavesFutures) :
    (s.run acts).desk.IsFair base ∧ (s.run acts).IsAwaited := by
  induction acts generalizing s with
  | nil => exact ⟨hfair, hawaited⟩
  | cons a acts ih =>
    have hattends := attends_act hawaited (hacts a (List.mem_cons_self ..))
    exact ih (hfair.turn hattends.turn) hattends.isAwaited
      fun b hb => hacts b (List.mem_cons_of_mem a hb)

/-- The desk of a new edge is fair. -/
theorem isFair_new {shared : Shared}
    (hshared : ∀ a ∈ shared.futures.answers, a.1 < shared.futures.nextTicket) (url : String)
    (isServerEvaluated : Bool) (settings : RetrySettings) :
    (new shared url isServerEvaluated settings).desk.IsFair shared.futures.nextTicket := by
  refine ⟨Nat.le_refl _, ?_⟩
  intro t ht
  have hfresh : t ∉ shared.futures.answers.map Prod.fst := by
    intro hmem
    obtain ⟨a, ha, rfl⟩ := List.mem_map.mp hmem
    exact absurd (hshared a ha) (Nat.not_lt.mpr ht)
  show (shared.futures.answers.map Prod.fst).count t + 0 =
    if t < shared.futures.nextTicket then 1 else 0
  rw [List.count_eq_zero_of_not_mem hfresh, if_neg (Nat.not_lt.mpr ht)]

/-- A future that is open gets the first news. -/
theorem result?_run (hfair : s.desk.IsFair base) (hawaited : s.IsAwaited) {t : Nat}
    (ht : base ≤ t) (hmade : t < s.shared.futures.nextTicket) {later : List Act}
    (hlater : ∀ a ∈ later, a.LeavesFutures) :
    (s.run later).shared.futures.result? t =
      (s.shared.futures.result? t).or (s.firstTold later) := by
  induction later generalizing s with
  | nil => exact (Option.or_none ..).symm
  | cons a later ih =>
    have hattends := attends_act hawaited (hlater a (List.mem_cons_self ..))
    have hnext : (s.act a).shared.futures.nextTicket =
        s.shared.futures.nextTicket + (s.handedOut? a).toList.length :=
      hattends.turn.nextTicket_eq
    have hstep : (s.act a).shared.futures.result? t =
        (s.shared.futures.result? t).or (s.told a) := by
      have hturn : (s.act a).shared.futures.result? t =
          (s.shared.futures.result? t).or (if t ∈ s.waiters then s.told a else none) :=
        hattends.turn.result?_eq hmade
      rw [hturn]
      cases hresult : s.shared.futures.result? t with
      | none => rw [if_pos (show t ∈ s.waiters from hfair.mem_waiters ht hmade hresult)]
      | some r => rfl
    have hmade' : t < (s.act a).shared.futures.nextTicket := by
      rw [hnext]
      exact Nat.lt_add_right _ hmade
    have hrest : (s.run (a :: later)).shared.futures.result? t =
        ((s.act a).shared.futures.result? t).or ((s.act a).firstTold later) :=
      ih (hfair.turn hattends.turn) hattends.isAwaited hmade'
        fun b hb => hlater b (List.mem_cons_of_mem a hb)
    rw [hrest, hstep, Option.or_assoc]
    rfl

/-- Each future that an edge hands out is answered once. A caller is answered with the present
readiness, or waits; whoever waits has a connection, and is answered with the readiness at the
first news: an event of a known name other than an acknowledgement and a configuration, the end of
a connection, or the end of the edge. -/
theorem every_future_completes (shared : Shared)
    (hshared : ∀ a ∈ shared.futures.answers, a.1 < shared.futures.nextTicket) (url : String)
    (isServerEvaluated : Bool) (settings : RetrySettings) {acts : List Act}
    (hacts : ∀ a ∈ acts, a.LeavesFutures) :
    let s := (new shared url isServerEvaluated settings).run acts
    (∀ t : Nat, shared.futures.nextTicket ≤ t → t < s.shared.futures.nextTicket →
      (s.shared.futures.answers.map Prod.fst).count t ≤ 1 ∧
      (s.shared.futures.result? t = none →
        ∃ c ∈ s.connections, s.current = some c.generation) ∧
      ∀ later : List Act, (∀ a ∈ later, a.LeavesFutures) →
        (s.run later).shared.futures.result? t =
          (s.shared.futures.result? t).or (s.firstTold later)) ∧
    ∀ a, a.LeavesFutures →
      (s.act a).shared.futures.nextTicket =
        s.shared.futures.nextTicket + (s.handedOut? a).toList.length ∧
      ∀ t, s.handedOut? a = some t → t = s.shared.futures.nextTicket ∧
        ((s.act a).shared.futures.result? t = none ∨
          (s.act a).shared.futures.result? t = some s.shared.readiness) := by
  intro s
  have hsound : s.line.IsSound := isSound_run (isSound_new ..) acts
  obtain ⟨hfair, hawaited⟩ :=
    fair_run (isFair_new hshared url isServerEvaluated settings) (.inl rfl) hacts
  refine ⟨?once, ?call⟩
  case once =>
    intro t ht hmade
    refine ⟨hfair.count_le_one ht, ?_, fun later hlater => ?_⟩
    · intro hopen
      -- whoever is not answered waits, and nobody waits without a connection
      have hwaits : t ∈ s.waiters := hfair.mem_waiters ht hmade hopen
      rcases hawaited with hnone | hcurrent
      · have hempty : s.waiters = [] := hnone
        rw [hempty] at hwaits
        cases hwaits
      · exact hsound.exists_of_isSome hcurrent
    · exact result?_run hfair hawaited ht hmade hlater
  case call =>
    intro a ha
    have hattends := attends_act hawaited ha
    refine ⟨hattends.turn.nextTicket_eq, ?_⟩
    intro t ht
    have hturn := hattends.turn
    rw [show handedOut? (run _ acts) a = some t from ht] at hturn
    exact hfair.result?_caller hturn

/-- A caller whose connection is given up for another context, and who hears nothing from an
acknowledgement, is answered by the end of the connection that replaced it. -/
theorem every_future_completes_after_replacement :
    let acts : List Act := [.poll, .changeContext (some "a") ""]
    let later : List Act :=
      [.receive 2 "ack" "" (.half, .half), .receive 2 "hello" "" (.half, .half),
        .finish 2 .broken (.half, .half), .close]
    let s := (new .new "" true .standard).run acts
    s.shared.futures.nextTicket = 2 ∧ s.shared.futures.result? 0 = none ∧
      (∃ c ∈ s.connections, s.current = some c.generation) ∧
      (s.run later).shared.futures.result? 0 = some .failed := by
  intro acts later s
  have hacts : ∀ a ∈ acts, a.LeavesFutures := by simp [acts, Act.LeavesFutures]
  have hlater : ∀ a ∈ later, a.LeavesFutures := by simp [later, Act.LeavesFutures]
  have hopen : s.shared.futures.result? 0 = none := by decide
  obtain ⟨hfutures, -⟩ := every_future_completes .new (by decide) "" true .standard hacts
  obtain ⟨-, hconnected, hanswer⟩ := hfutures 0 (by decide) (by decide)
  refine ⟨by decide, hopen, hconnected hopen, ?_⟩
  have hfirst : s.firstTold later = some .failed := by decide
  rw [hanswer later hlater, hfirst]
  decide

end FeatureFlags.Edge.Streaming
