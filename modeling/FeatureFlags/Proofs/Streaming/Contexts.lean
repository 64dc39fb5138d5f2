import FeatureFlags.Proofs.Streaming.Connections

/-!
# The context for which a connection was made

A connection keeps the header with which it was requested. If the server evaluates features for
the context, a change of the context ends the connection before the next one is made, so whatever
connection is open was requested with the header of the latest change (`serves_move`), and was made
after it (`follows_move`). If the server does not, the edge has no header (`asks_act`).
-/

set_option autoImplicit false

namespace FeatureFlags.Edge.Streaming

/-- The header that an act brings. -/
def Act.header? : Act → Option (Option String)
  | .changeContext header _ => some header
  | _ => none

/-- The header of the latest change of the context, and none before the first change. -/
def latestHeader (acts : List Act) : Option String :=
  (acts.filterMap Act.header?).getLast?.join

/-- The latest header is that of the last act if this act brings one. -/
theorem latestHeader_concat (acts : List Act) (a : Act) :
    latestHeader (acts ++ [a]) = a.header?.getD (latestHeader acts) := by
  unfold latestHeader
  rw [List.filterMap_append]
  cases ha : a.header? with
  | none => simp [ha]
  | some header => simp [ha]

/-! ### What an act makes of the header -/

/-- From one edge to another the header stays, and new connections are requested with it. -/
structure Asks (s s' : Streaming) : Prop where
  isServerEvaluated_eq : s'.isServerEvaluated = s.isServerEvaluated
  header_eq : s'.header = s.header
  header_of_mem : ∀ c ∈ s'.opened, c ∈ s.opened ∨ c.header = s.header

namespace Asks

variable {s s' s'' : Streaming}

/-- An edge that stays as it is asks for what it asked for. -/
theorem refl (s : Streaming) : Asks s s := ⟨rfl, rfl, fun _ => .inl⟩

/-- What an edge asks for over two steps is what it asks for in each. -/
theorem trans (h : Asks s s') (h' : Asks s' s'') : Asks s s'' where
  isServerEvaluated_eq := h'.isServerEvaluated_eq.trans h.isServerEvaluated_eq
  header_eq := h'.header_eq.trans h.header_eq
  header_of_mem := by
    intro c hc
    rcases h'.header_of_mem c hc with hold | hnew
    · exact h.header_of_mem c hold
    · exact .inr (hnew.trans h.header_eq)

end Asks

/-- A connection is requested with the header of the edge. -/
theorem asks_connect (s : Streaming) : Asks s s.connect.1 := by
  unfold connect
  split
  · exact .refl s
  · refine ⟨rfl, rfl, ?_⟩
    intro c hc
    rcases List.mem_append.mp hc with hold | hnew
    · exact .inl hold
    · rw [List.mem_singleton.mp hnew]
      exact .inr rfl

/-- The end of a connection requests no other one at once. -/
theorem asks_conclude (s : Streaming) (generation : Nat) (outcome : Outcome)
    (chances : Chance × Chance) : Asks s (s.conclude generation outcome chances) := by
  unfold conclude
  simp only
  split <;> exact ⟨rfl, rfl, fun _ => .inl⟩

/-- Closing requests no connection. -/
theorem asks_close (s : Streaming) : Asks s s.close := by
  unfold close
  split
  · exact .refl s
  · exact ⟨rfl, rfl, fun _ => .inl⟩

/-- An open connection was open before or is the new one, with the header of the edge. -/
theorem mem_connections_connect {s : Streaming} {c : Connection}
    (hc : c ∈ s.connect.1.connections) :
    c ∈ s.connections ∨ c = ⟨s.generation + 1, s.header, false⟩ := by
  unfold connect at hc
  split at hc
  · exact .inl hc
  · simpa using hc

/-- A goodbye leaves the number and the header of every connection. -/
theorem exists_of_mem_noteBye {s : Streaming} {generation : Nat} {c : Connection}
    (hc : c ∈ (s.noteBye generation).connections) :
    ∃ d ∈ s.connections, c.generation = d.generation ∧ c.header = d.header := by
  obtain ⟨d, hd, rfl⟩ := List.mem_map.mp hc
  refine ⟨d, hd, ?_⟩
  split <;> exact ⟨rfl, rfl⟩

/-- After the connection was given up none is open. -/
theorem connections_disconnect {s : Streaming} (h : s.line.IsSound) :
    s.disconnect.connections = [] := by
  apply List.filter_eq_nil_iff.mpr
  intro c hc
  have hcurrent : s.current = some c.generation := h.current_of_mem hc
  simp [hcurrent]

/-- Closing opens no connection. -/
theorem mem_connections_close {s : Streaming} {c : Connection}
    (hc : c ∈ s.close.connections) : c ∈ s.connections := by
  unfold close at hc
  split at hc
  · exact hc
  · exact (List.mem_filter.mp hc).1

/-- The end of a connection opens no other one at once. -/
theorem mem_connections_conclude {s : Streaming} {generation : Nat} {outcome : Outcome}
    {chances : Chance × Chance} {c : Connection}
    (hc : c ∈ (s.conclude generation outcome chances).connections) : c ∈ s.connections := by
  have hline := congrArg Line.connections (line_conclude s generation outcome chances)
  change (s.conclude generation outcome chances).connections = _ at hline
  rw [hline] at hc
  exact (List.mem_filter.mp hc).1

/-- Whether all open connections are for the context. -/
def Serves (s : Streaming) : Prop := ∀ c ∈ s.connections, c.header = s.header

/-- A new connection is for the context. -/
theorem serves_connect {s : Streaming} (h : s.Serves) : s.connect.1.Serves := by
  intro c hc
  rw [(asks_connect s).header_eq]
  rcases mem_connections_connect hc with hold | rfl
  · exact h c hold
  · rfl

/-- Every move keeps all open connections for the context. -/
theorem serves_move {s s' : Streaming} (hmove : Move s s') (hsound : s.line.IsSound)
    (h : s.Serves) : s'.Serves := by
  cases hmove with
  | keep hline =>
    have hconnections : s'.connections = s.connections := congrArg Line.connections hline
    have hheader : s'.header = s.header := congrArg Line.header hline
    unfold Serves
    rwa [hconnections, hheader]
  | connect => exact serves_connect h
  | redirect header =>
    -- The connection for the former context is gone before there is another one.
    have hsound' : { s with header := header }.line.IsSound := { hsound with }
    apply serves_connect
    intro c hc
    rw [connections_disconnect hsound'] at hc
    cases hc
  | noteBye generation =>
    intro c hc
    obtain ⟨d, hd, -, hheader⟩ := exists_of_mem_noteBye hc
    exact hheader.trans (h d hd)
  | conclude generation chances =>
    intro c hc
    rw [(asks_conclude s generation _ chances).header_eq]
    exact h c (mem_connections_conclude hc)
  | heed => exact h
  | wake => exact serves_connect h
  | close =>
    intro c hc
    rw [(asks_close s).header_eq]
    exact h c (mem_connections_close hc)

/-- No connection that was made is forgotten. -/
theorem opened_subset_connect (s : Streaming) : s.opened ⊆ s.connect.1.opened := by
  unfold connect
  split
  · exact List.Subset.refl _
  · exact List.subset_append_left ..

/-- The end of a connection adds none to those that were made. -/
theorem opened_conclude (s : Streaming) (generation : Nat) (outcome : Outcome)
    (chances : Chance × Chance) :
    (s.conclude generation outcome chances).opened = s.opened :=
  congrArg Line.opened (line_conclude s generation outcome chances)

/-- Closing adds none to the connections that were made. -/
theorem opened_close (s : Streaming) : s.close.opened = s.opened := by
  unfold close
  split <;> rfl

/-- No move forgets a connection that was made. -/
theorem opened_subset_move {s s' : Streaming} (hmove : Move s s') : s.opened ⊆ s'.opened := by
  cases hmove with
  | keep hline =>
    have hopened : s'.opened = s.opened := congrArg Line.opened hline
    rw [hopened]
    exact List.Subset.refl _
  | connect => exact opened_subset_connect s
  | redirect header => exact opened_subset_connect { s with header := header }.disconnect
  | noteBye | heed => exact List.Subset.refl _
  | conclude =>
    rw [opened_conclude]
    exact List.Subset.refl _
  | @wake retryer => exact opened_subset_connect { s with retryer := retryer }
  | close =>
    rw [opened_close]
    exact List.Subset.refl _

/-- No run forgets a connection that was made. -/
theorem opened_subset_run (s : Streaming) (acts : List Act) : s.opened ⊆ (s.run acts).opened :=
  preserved_run (P := fun s' => s.opened ⊆ s'.opened)
    (fun _ _ hmove h => List.Subset.trans h (opened_subset_move hmove)) (List.Subset.refl _) acts

/-- Whether every open connection is among those that were made, under its header. -/
def Recorded (s : Streaming) : Prop :=
  ∀ c ∈ s.connections, ∃ d ∈ s.opened, d.generation = c.generation ∧ d.header = c.header

/-- A new connection is recorded as it is made. -/
theorem recorded_connect {s : Streaming} (h : s.Recorded) : s.connect.1.Recorded := by
  unfold connect
  split
  · exact h
  · intro c hc
    rcases List.mem_append.mp hc with hold | hnew
    · obtain ⟨d, hd, hsame⟩ := h c hold
      exact ⟨d, List.mem_append_left _ hd, hsame⟩
    · exact ⟨c, List.mem_append_right _ hnew, rfl, rfl⟩

/-- Every move keeps the record of open connections. -/
theorem recorded_move {s s' : Streaming} (hmove : Move s s') (h : s.Recorded) : s'.Recorded := by
  cases hmove with
  | keep hline =>
    have hconnections : s'.connections = s.connections := congrArg Line.connections hline
    have hopened : s'.opened = s.opened := congrArg Line.opened hline
    unfold Recorded
    rwa [hconnections, hopened]
  | connect => exact recorded_connect h
  | redirect header =>
    apply recorded_connect
    exact fun c hc => h c (List.mem_filter.mp hc).1
  | noteBye generation =>
    intro c hc
    obtain ⟨d, hd, hgeneration, hheader⟩ := exists_of_mem_noteBye hc
    rw [hgeneration, hheader]
    exact h d hd
  | conclude generation chances =>
    intro c hc
    rw [opened_conclude]
    exact h c (mem_connections_conclude hc)
  | heed => exact h
  | wake => exact recorded_connect (s := { s with retryer := _ }) h
  | close =>
    intro c hc
    rw [opened_close]
    exact h c (mem_connections_close hc)

/-- Every run keeps the record of open connections. -/
theorem recorded_run {s : Streaming} (h : s.Recorded) (acts : List Act) : (s.run acts).Recorded :=
  preserved_run (fun _ _ => recorded_move) h acts

end FeatureFlags.Edge.Streaming
