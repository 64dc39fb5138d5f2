import FeatureFlags.Proofs.Streaming.Moves

/-!
# One connection, and then none

At most one connection is open at any time: the one that counts as open, which is the one that was
made last. This, and that the retryer agrees with the edge on when it is over, is `Line.IsSound`,
which every move preserves.

An edge is over once it is closed or its retryer is stopped. The server dismisses it by rejecting
the key, by a failure or by a stale configuration, others by a terminal outcome or by closing it
(`Dismisses`). From then on nothing that happens opens a connection, not even a wait that was
already under way.
-/

set_option autoImplicit false

namespace FeatureFlags.Edge.Streaming

/-! ### Soundness -/

/-- What the parts of a line have to do with each other. -/
structure Line.IsSound (l : Line) : Prop where
  generations : l.connections.map Connection.generation = l.current.toList
  current_eq : ∀ generation ∈ l.current, generation = l.generation
  numbers : l.opened.map Connection.generation = List.range' 1 l.generation
  isConsistent : l.retryer.IsConsistent
  isClosed_eq : l.retryer.isClosed = l.isClosed

namespace Line.IsSound

variable {l : Line}

/-- At most one connection is open. -/
theorem length_le (h : l.IsSound) : l.connections.length ≤ 1 := by
  have hlength := congrArg List.length h.generations
  rw [List.length_map] at hlength
  rw [hlength]
  cases l.current <;> simp

/-- The connection that is open is the one that counts as open. -/
theorem current_of_mem (h : l.IsSound) {c : Connection} (hc : c ∈ l.connections) :
    l.current = some c.generation := by
  have hmem := List.mem_map_of_mem (f := Connection.generation) hc
  rw [h.generations] at hmem
  simpa using hmem

/-- The connection that counts as open is open. -/
theorem exists_of_isSome (h : l.IsSound) (hcurrent : l.current.isSome) :
    ∃ c ∈ l.connections, l.current = some c.generation := by
  obtain ⟨generation, hgeneration⟩ := Option.isSome_iff_exists.mp hcurrent
  have hmem : generation ∈ l.connections.map Connection.generation := by
    rw [h.generations]
    exact Option.mem_toList.mpr hgeneration
  obtain ⟨c, hc, rfl⟩ := List.mem_map.mp hmem
  exact ⟨c, hc, hgeneration⟩

/-- As many connections were made as their numbers say. -/
theorem length_opened (h : l.IsSound) : l.opened.length = l.generation := by
  have hlength := congrArg List.length h.numbers
  rwa [List.length_map, List.length_range'] at hlength

/-- A line is over exactly if its retryer is stopped or closed. -/
theorem isOver_iff (h : l.IsSound) : l.isOver ↔ l.retryer.isStopped ∨ l.retryer.isClosed := by
  simp [isOver, h.isClosed_eq, or_comm]

/-- What the retryer hears of keeps a line sound. -/
theorem heed (h : l.IsSound) {me : Reconnector} {r : Retryer Reconnector}
    (hheeds : l.retryer.Heeds me r) : { l with retryer := r }.IsSound :=
  { h with
    isConsistent := hheeds.isConsistent h.isConsistent
    isClosed_eq := hheeds.isClosed_eq.trans h.isClosed_eq }

/-- The connection that counts as open is the only one to lose. -/
theorem part (h : l.IsSound) (generation : Nat) :
    { l with
      connections := l.connections.filter fun c => c.generation ≠ generation
      current := if l.current = some generation then none else l.current }.IsSound := by
  refine { h with generations := ?_, current_eq := ?_ }
  · have hmap : (l.connections.filter fun c => c.generation ≠ generation).map
        Connection.generation = l.current.toList.filter fun g => g ≠ generation := by
      rw [← h.generations, List.filter_map]
      rfl
    rw [hmap]
    cases hcurrent : l.current with
    | none => simp
    | some g => by_cases hg : g = generation <;> simp [hg]
  · intro g hg
    split at hg
    · cases hg
    · exact h.current_eq g hg

/-- Another connection keeps a line sound if there is none. -/
theorem extend (h : l.IsSound) (hcurrent : l.current = none) : l.extend.IsSound := by
  refine { h with generations := ?_, current_eq := ?_, numbers := ?_ }
  · simp [Line.extend, h.generations, hcurrent]
  · intro g hg
    cases hg
    rfl
  · simp [Line.extend, h.numbers, List.range'_concat, Nat.add_comm]

end Line.IsSound

/-- The line of a new edge is sound. -/
theorem isSound_new (shared : Shared) (url : String) (isServerEvaluated : Bool)
    (settings : RetrySettings) : (new shared url isServerEvaluated settings).line.IsSound where
  generations := rfl
  current_eq _ h := nomatch h
  numbers := rfl
  isConsistent := id
  isClosed_eq := rfl

/-- Connecting keeps the line sound. -/
theorem isSound_connect {s : Streaming} (h : s.line.IsSound) : s.connect.1.line.IsSound := by
  rw [line_connect]
  split
  · exact h
  next hguard =>
    rw [Bool.or_eq_true, not_or] at hguard
    exact h.extend (Option.not_isSome_iff_eq_none.mp hguard.2)

/-- Giving the connection up keeps the line sound. -/
theorem isSound_disconnect {s : Streaming} (h : s.line.IsSound) : s.disconnect.line.IsSound := by
  have hnone : s.disconnect.connections = [] := by
    apply List.filter_eq_nil_iff.mpr
    intro c hc
    simp [show s.current = some c.generation from h.current_of_mem hc]
  exact { h with
    generations := by
      show s.disconnect.connections.map _ = []
      rw [hnone]
      rfl
    current_eq := fun _ hg => nomatch hg }

/-- A goodbye renumbers no connection. -/
theorem generations_noteBye (s : Streaming) (generation : Nat) :
    (s.noteBye generation).connections.map Connection.generation =
      s.connections.map Connection.generation := by
  unfold noteBye
  simp only [List.map_map]
  apply List.map_congr_left
  intro c _
  rw [Function.comp_apply]
  split <;> rfl

/-- The end of a connection keeps the line sound. -/
theorem isSound_conclude {s : Streaming} (h : s.line.IsSound) (generation : Nat)
    (outcome : Outcome) (chances : Chance × Chance) :
    (s.conclude generation outcome chances).line.IsSound := by
  rw [line_conclude]
  exact (h.part generation).heed (Retryer.heeds_report .edge ..)

/-- Closing keeps the line sound. -/
theorem isSound_close {s : Streaming} (h : s.line.IsSound) : s.close.line.IsSound := by
  cases hclosed : s.isClosed with
  | true => rwa [close_of_isClosed hclosed]
  | false =>
    rw [line_close hclosed]
    exact { isSound_disconnect h with isConsistent := h.isConsistent, isClosed_eq := rfl }

/-- Every move keeps the line sound. -/
theorem isSound_move {s s' : Streaming} (hmove : Move s s') (h : s.line.IsSound) :
    s'.line.IsSound := by
  cases hmove with
  | keep hline => rwa [hline]
  | connect => exact isSound_connect h
  | redirect header =>
    have hheader : { s with header := header }.line.IsSound := { h with }
    exact isSound_connect (isSound_disconnect hheader)
  | noteBye generation =>
    exact { h with generations := (generations_noteBye s generation).trans h.generations }
  | conclude generation chances => exact isSound_conclude h generation _ chances
  | heed hheeds => exact h.heed hheeds
  | @wake retryer hdue =>
    -- What `wake` takes is a wait of the edge, which `Heeds` does not allow.
    obtain ⟨before, w, after, -, -, rfl⟩ := Retryer.waits_of_takeDue? hdue
    exact isSound_connect { h with isConsistent := h.isConsistent, isClosed_eq := h.isClosed_eq }
  | close => exact isSound_close h

/-- Every run keeps the line sound. -/
theorem isSound_run {s : Streaming} (h : s.line.IsSound) (acts : List Act) :
    (s.run acts).line.IsSound :=
  preserved_run (P := fun s => s.line.IsSound) (fun _ _ => isSound_move) h acts

/-! ### The end -/

/-- What becomes of a line that is over: it stays so, and no connection comes to those there are. -/
structure Line.Dwindles (l l' : Line) : Prop where
  isOver : l'.isOver
  opened_eq : l'.opened = l.opened
  sublist : (l'.connections.map Connection.generation).Sublist
    (l.connections.map Connection.generation)

/-- Whatever else changes, connections that are given up do not come back. -/
theorem Line.Dwindles.of_filter {l l' : Line} (h : l.Dwindles l') {header : Option String}
    {current : Option Nat} {isClosed : Bool} {r : Retryer Reconnector}
    (hover : isClosed || r.isStopped) (p : Connection → Bool) :
    l.Dwindles
      { l' with
        header := header
        current := current
        connections := l'.connections.filter p
        isClosed := isClosed
        retryer := r } where
  isOver := hover
  opened_eq := h.opened_eq
  sublist := (List.filter_sublist.map _).trans h.sublist

/-- Nobody who asks for a connection gets one once the line is over. -/
theorem dwindles_connect {l : Line} {s : Streaming} (h : l.Dwindles s.line) :
    l.Dwindles s.connect.1.line := by
  rwa [line_connect_of_isOver h.isOver]

/-- Nothing that the retryer hears of starts a line again. -/
theorem isOver_heed {s : Streaming} (h : s.line.isOver) {me : Reconnector}
    {r : Retryer Reconnector} (hheeds : s.retryer.Heeds me r) :
    (s.isClosed || r.isStopped) = true := by
  rw [Bool.or_eq_true]
  rcases Bool.or_eq_true_iff.mp h with hclosed | hstopped
  · exact .inl hclosed
  · exact .inr (hheeds.isStopped hstopped)

/-- No move opens a connection once the line is over. -/
theorem dwindles_move {l : Line} {s s' : Streaming} (hmove : Move s s') (h : l.Dwindles s.line) :
    l.Dwindles s'.line := by
  cases hmove with
  | keep hline => rwa [hline]
  | connect => exact dwindles_connect h
  | redirect header =>
    exact dwindles_connect (s := { s with header := header }.disconnect) (h.of_filter h.isOver _)
  | noteBye generation =>
    exact { h with sublist := (generations_noteBye s generation).symm ▸ h.sublist }
  | conclude generation chances =>
    rw [line_conclude]
    exact h.of_filter (isOver_heed h.isOver (Retryer.heeds_report .edge ..)) _
  | heed hheeds => exact { h with isOver := isOver_heed h.isOver hheeds }
  | @wake retryer hdue =>
    obtain ⟨before, w, after, -, -, rfl⟩ := Retryer.waits_of_takeDue? hdue
    exact dwindles_connect { h with isOver := h.isOver }
  | close =>
    cases hclosed : s.isClosed with
    | true => rwa [close_of_isClosed hclosed]
    | false =>
      rw [line_close hclosed]
      exact h.of_filter rfl _

/-- Nothing that happens to an edge that is over opens a connection. -/
theorem dwindles_run {s : Streaming} (h : s.line.isOver) (acts : List Act) :
    s.line.Dwindles (s.run acts).line :=
  preserved_run (P := fun s' => s.line.Dwindles s'.line) (fun _ _ => dwindles_move)
    ⟨h, rfl, .refl _⟩ acts

/-! ### Dismissals -/

/-- Whether an act is the end of the connections of an edge. -/
def Dismisses (s : Streaming) : Act → Prop
  | .receive generation name data _ =>
    (s.connection? generation).isSome ∧
      (EventKind.ofName? name = some .failure ∨
        EventKind.ofName? name = some .config ∧ Retryer.IsStale data)
  | .straggle generation name data _ =>
    s.hasGivenUp generation ∧ EventKind.ofName? name = some .config ∧ Retryer.IsStale data
  | .finish generation ending _ => (s.connection? generation).isSome ∧ ending = .rejected
  | .trail c ending _ => s.hasGivenUp c.generation ∧ ending = .rejected
  | .report outcome _ _ => outcome.IsTerminal
  | .configure data => Retryer.IsStale data
  | .close => True
  | _ => False

/-- A terminal outcome ends the line. -/
theorem isOver_report {l : Line} (h : l.IsSound) {outcome : Outcome} (ho : outcome.IsTerminal)
    (now : Instant) (chances : Chance × Chance) (reconnector : Reconnector) :
    { l with retryer := l.retryer.report now chances outcome reconnector }.isOver := by
  have hheeds := Retryer.heeds_report reconnector l.retryer now chances outcome reconnector
  exact (h.heed hheeds).isOver_iff.mpr
    (Retryer.isStopped_or_isClosed_report h.isConsistent ho now chances reconnector)

/-- The end of a connection for want of a key ends the line. -/
theorem isOver_conclude {s : Streaming} (h : s.line.IsSound) (generation : Nat)
    (chances : Chance × Chance) :
    (s.conclude generation .apiKeyNotFound chances).line.isOver := by
  rw [line_conclude]
  exact isOver_report h (.inl rfl) s.shared.now chances .edge

/-- The end of an open connection for want of a key ends the line. -/
theorem isOver_endConnection {s : Streaming} (h : s.line.IsSound) {generation : Nat}
    (hopen : (s.connection? generation).isSome) (chances : Chance × Chance) :
    (s.endConnection generation .apiKeyNotFound chances).line.isOver := by
  rw [endConnection_eq_conclude, Option.isNone_eq_false_iff.mpr hopen,
    if_neg Bool.false_ne_true]
  exact isOver_conclude h generation chances

/-- A stale configuration ends the line. -/
theorem isOver_of_isStale {data : String} (hdata : Retryer.IsStale data) (l : Line) :
    { l with retryer := l.retryer.configure data }.isOver := by
  rw [Line.isOver, Retryer.isStopped_configure hdata, Bool.or_true]

/-- A failure over an open connection ends the line. -/
theorem isOver_applyMessage_failure {s : Streaming} (h : s.line.IsSound) {generation : Nat}
    (hopen : (s.connection? generation).isSome) (data : String) (chances : Chance × Chance) :
    (s.applyMessage generation .failure data chances).line.isOver := by
  have hsound : (s.applyText .failure data).answerWaiters.line.IsSound :=
    preserved_moves (P := fun s => s.line.IsSound) (fun _ _ => isSound_move)
      ((moves_applyText s .failure data).keep rfl) h
  exact isOver_endConnection hsound hopen chances

/-- Closing ends the line. -/
theorem isOver_close (s : Streaming) : s.close.line.isOver := by
  cases hclosed : s.isClosed with
  | true =>
    rw [close_of_isClosed hclosed]
    exact Bool.or_eq_true_iff.mpr (.inl hclosed)
  | false =>
    rw [line_close hclosed]
    rfl

/-- Whoever dismisses an edge ends it. -/
theorem isOver_act {s : Streaming} (h : s.line.IsSound) {a : Act} (ha : s.Dismisses a) :
    (s.act a).line.isOver := by
  cases a with
  | receive generation name data chances =>
    obtain ⟨hopen, hevent⟩ := ha
    obtain ⟨c, hc⟩ := Option.isSome_iff_exists.mp hopen
    rcases hevent with hname | ⟨hname, hdata⟩
    · simp only [act, receive, hc, hname]
      exact isOver_applyMessage_failure h hopen data chances
    · simp only [act, receive, hc, hname]
      exact isOver_of_isStale hdata s.line
  | straggle generation name data chances =>
    obtain ⟨hgiven, hname, hdata⟩ := ha
    simp only [act, straggle, hgiven, hname]
    exact isOver_of_isStale hdata s.line
  | finish generation ending chances =>
    obtain ⟨hopen, rfl⟩ := ha
    obtain ⟨c, hc⟩ := Option.isSome_iff_exists.mp hopen
    simp only [act, finish, hc]
    exact isOver_endConnection h hopen chances
  | trail c ending chances =>
    obtain ⟨hgiven, rfl⟩ := ha
    simp only [act, trail, hgiven, if_true]
    exact isOver_conclude h c.generation chances
  | report outcome reconnector chances =>
    exact isOver_report h ha s.shared.now chances reconnector
  | configure data => exact isOver_of_isStale ha s.line
  | close => exact isOver_close s
  | _ => exact ha.elim

/-- In every run at most one connection is open, the one that was made last. Whoever dismisses
the edge ends it, and once it has ended nothing that happens opens a connection. -/
theorem one_connection_until_over (shared : Shared) (url : String) (isServerEvaluated : Bool)
    (settings : RetrySettings) (acts : List Act) :
    let s := (new shared url isServerEvaluated settings).run acts
    s.connections.length ≤ 1 ∧
    (∀ c ∈ s.connections, s.current = some c.generation ∧ c.generation = s.opened.length) ∧
    (∀ a, s.Dismisses a → (s.act a).isClosed ∨ (s.act a).retryer.isStopped) ∧
    (s.isClosed ∨ s.retryer.isStopped → ∀ later,
      ((s.run later).isClosed ∨ (s.run later).retryer.isStopped) ∧
      (s.run later).opened = s.opened ∧
      ((s.run later).connections.map Connection.generation).Sublist
        (s.connections.map Connection.generation)) := by
  intro s
  have hsound : s.line.IsSound := isSound_run (isSound_new ..) acts
  refine ⟨hsound.length_le, ?last, ?dismissed, ?ended⟩
  case last =>
    intro c hc
    have hcurrent := hsound.current_of_mem hc
    exact ⟨hcurrent, (hsound.current_eq _ hcurrent).trans hsound.length_opened.symm⟩
  case dismissed =>
    intro a ha
    exact Bool.or_eq_true_iff.mp (isOver_act hsound ha)
  case ended =>
    intro hover later
    have hdwindles := dwindles_run (s := s) (Bool.or_eq_true_iff.mpr hover) later
    exact ⟨Bool.or_eq_true_iff.mp hdwindles.isOver, hdwindles.opened_eq, hdwindles.sublist⟩

/-- A rejected key makes nothing of a wait that was under way. -/
theorem wait_after_rejection :
    let acts : List Act := [.poll, .finish 1 .broken (.half, .half), .poll,
      .finish 2 .rejected (.half, .half)]
    let later : List Act :=
      [.modifyShared fun shared => { shared with now := ⟨1000000000⟩ }, .wake, .poll]
    let s := (new .new "" false .standard).run acts
    s.retryer.waits.length = 1 ∧ (s.run later).retryer.waits = [] ∧
      (s.run later).opened = s.opened := by
  intro acts later s
  have hover : s.isClosed ∨ s.retryer.isStopped := .inr rfl
  obtain ⟨-, -, -, hlater⟩ := one_connection_until_over .new "" false .standard acts
  exact ⟨rfl, rfl, (hlater hover later).2.1⟩

end FeatureFlags.Edge.Streaming
