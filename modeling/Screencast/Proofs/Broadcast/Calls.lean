/-
This file shows that every source is started and stopped in turn, that the counters of its session
agree with that, and that a shutdown leaves no source running.
-/

import Screencast.Proofs.Broadcast.Stations

namespace Screencast.Broadcast

/-- The calls begin with a start, and starts and stops alternate. The last argument is the call that
comes next. -/
inductive Alternating : List SourceCall → SourceCall → Prop
  | none : Alternating [] .start
  | start {calls : List SourceCall} :
      Alternating calls .start → Alternating (calls ++ [.start]) .stop
  | stop {calls : List SourceCall} :
      Alternating calls .stop → Alternating (calls ++ [.stop]) .start

/-- A source that would be started next was never started or was stopped last. -/
theorem Alternating.last_stop {calls : List SourceCall} (alternating : Alternating calls .start) :
    calls = [] ∨ calls.getLast? = some .stop := by
  cases alternating with
  | none => exact .inl rfl
  | stop => exact .inr (by simp)

/-- A source that would be stopped next was started last. -/
theorem Alternating.last_start {calls : List SourceCall} (alternating : Alternating calls .stop) :
    calls.getLast? = some .start := by
  cases alternating with
  | start => simp

namespace Input

/-- This is what an input reports about a start of the source of a format. -/
def outcome? (format : Format) : Input → Option Outcome
  | .started own outcome => if own = format then some outcome else none
  | .shutdown h264 jpeg => some (format.choose h264 jpeg)
  | _ => none

end Input

namespace Session

/-- The call that a source gets next depends on whether it was started. -/
def nextCall (session : Session) : SourceCall := if session.state = .idle then .start else .stop

/-- A start attempt is under way or has led to a running stream. -/
def running (session : Session) : Nat := if session.state = .idle then 0 else 1

/-- An input settles a pending start by its outcome. -/
def settled? (session : Session) (input : Input) : Option Outcome :=
  if session.state = .starting then input.outcome? session.format else none

theorem settled?_of_pending {session : Session} (pending : session.state = .starting)
    {input : Input} : session.settled? input = input.outcome? session.format := if_pos pending

/-- An outcome settles nothing unless it reaches the session while its source is away. -/
theorem Coherent.settled?_started {session : Session} (coherent : session.Coherent)
    {format : Format} (other : ¬ (format = session.format ∧ session.sourceHome = false))
    (outcome : Outcome) : session.settled? (.started format outcome) = none := by
  rw [settled?]
  split
  case isTrue pending => exact if_neg fun same => other ⟨same, coherent.away.2 pending⟩
  case isFalse => rfl

/-- The calls alternate and the counters agree with them. -/
structure Balanced (session : Session) (calls : List SourceCall) (failed : Nat) : Prop where
  alternating : Alternating calls session.nextCall
  starts : session.starts = calls.count .start
  counters : session.starts = session.stops + failed + session.running

end Session

namespace Turn

/-- This extends the balance of a session by the calls of its turn. -/
def Balanced (turn : Turn) (past : List SourceCall) (failed : Nat) : Prop :=
  turn.session.Balanced (past ++ callsOf turn.session.format turn.effects) failed

namespace Balanced

variable {turn : Turn} {past : List SourceCall} {failed : Nat}

/-- Neither the viewers nor the way from a start to a stream matter for the balance. -/
theorem same {last : Turn} (balanced : turn.Balanced past failed)
    (format : last.session.format = turn.session.format)
    (idle : last.session.state = .idle ↔ turn.session.state = .idle)
    (starts : last.session.starts = turn.session.starts)
    (stops : last.session.stops = turn.session.stops)
    (calls : callsOf turn.session.format last.effects = callsOf turn.session.format turn.effects) :
    last.Balanced past failed := by
  obtain ⟨alternating, started, counters⟩ := balanced
  constructor
  · simpa only [Session.nextCall, format, idle, calls] using alternating
  · rw [format, starts, calls]
    exact started
  · simpa only [Session.running, idle, starts, stops] using counters

/-- A running or pending source is stopped. -/
theorem stop {last : Turn} {total : Nat} (balanced : turn.Balanced past failed)
    (active : turn.session.state ≠ .idle)
    (format : last.session.format = turn.session.format)
    (idle : last.session.state = .idle)
    (starts : last.session.starts = turn.session.starts)
    (stops : last.session.stops + total = turn.session.stops + failed + 1)
    (calls : callsOf turn.session.format last.effects =
      callsOf turn.session.format turn.effects ++ [.stop]) :
    last.Balanced past total := by
  obtain ⟨alternating, started, counters⟩ := balanced
  simp only [Session.nextCall, Session.running, active, if_false] at alternating counters
  constructor
  · simp only [Session.nextCall, idle, if_true, format, calls, ← List.append_assoc]
    exact alternating.stop
  · rw [format, starts, calls, started]
    simp
  · simp only [Session.running, idle, if_true, starts]
    omega

/-- An idle source is started. -/
theorem start {last : Turn} (balanced : turn.Balanced past failed)
    (idle : turn.session.state = .idle)
    (format : last.session.format = turn.session.format)
    (active : last.session.state ≠ .idle)
    (starts : last.session.starts = turn.session.starts + 1)
    (stops : last.session.stops = turn.session.stops)
    (calls : callsOf turn.session.format last.effects =
      callsOf turn.session.format turn.effects ++ [.start]) :
    last.Balanced past failed := by
  obtain ⟨alternating, started, counters⟩ := balanced
  simp only [Session.nextCall, Session.running, idle, if_true] at alternating counters
  constructor
  · simp only [Session.nextCall, active, if_false, format, calls, ← List.append_assoc]
    exact alternating.start
  · rw [format, starts, calls, started]
    simp [← Nat.add_assoc]
  · simp only [Session.running, active, if_false, starts, stops]
    omega

theorem unsubscribe (balanced : turn.Balanced past failed) (coherent : turn.session.Coherent)
    (gone : List ViewerId) : (turn.unsubscribe gone).2.Balanced past failed := by
  have left := unsubscribe_left turn gone
  generalize turn.unsubscribe gone = result at left
  cases left with
  | nobody => exact balanced
  | some | idle | starting => exact balanced.same rfl Iff.rfl rfl rfl rfl
  | live empty live =>
      have home := coherent.home_of_ne (by simp [live])
      generalize turn.session.subscribers.filter (fun subscriber =>
        decide (subscriber.viewer ∉ gone)) = rest
      rw [stopLive_of_home (turn.withSubscribers rest) home]
      exact balanced.stop (by simp [live]) rfl rfl rfl (Nat.add_right_comm _ _ _)
        (by simp [withSubscribers])

theorem subscribe (balanced : turn.Balanced past failed) (coherent : turn.session.Coherent)
    (viewer : ViewerId) (catchUp : List Octets) :
    (turn.subscribe viewer catchUp).Balanced past failed := by
  have joined := coherent.subscribe_joined viewer catchUp
  generalize turn.subscribe viewer catchUp = last at joined
  cases joined with
  | starts idle => exact balanced.start idle rfl (by simp) rfl rfl (by simp)
  | waits => exact balanced.same rfl Iff.rfl rfl rfl rfl
  | stays => exact balanced
  | told =>
      refine balanced.same ?_ ?_ ?_ ?_ (by simp)
      all_goals
        rw [announce_session]
        rfl

/-- The outcome of a pending start ends it, turns it into a stream or makes way for another one. -/
theorem started (balanced : turn.Balanced past failed) (pending : turn.session.state = .starting)
    (outcome : Outcome) :
    (turn.started outcome).Balanced past (failed + if outcome.isFailed then 1 else 0) := by
  have active : turn.session.state ≠ .idle := by simp [pending]
  by_cases empty : turn.session.subscribers = []
  · obtain ⟨⟨lost, session⟩, calls, -⟩ := started_unwatched turn empty outcome
    refine balanced.stop active ?_ ?_ ?_ ?_ calls
    · rw [session]
    · rw [session]
    · rw [session]
    · rw [session]
      cases outcome <;> simp [Outcome.isFailed] <;> omega
  cases outcome with
  | live info =>
      obtain ⟨session, calls, -⟩ := started_live_watched empty info
      refine balanced.same ?_ ?_ ?_ ?_ (calls _)
      all_goals rw [session]
      simp [active]
  | cancelled =>
      let stopped : Turn := { turn with
        session := { turn.session with
          sourceHome := true, token := none, state := .idle, stops := turn.session.stops + 1 }
        effects := turn.effects ++ [.call turn.session.format .stop] }
      have middle : stopped.Balanced past failed :=
        balanced.stop active rfl rfl rfl (Nat.add_right_comm _ _ _) (by simp [stopped])
      rw [started_cancelled_watched empty]
      exact middle.start rfl rfl (by simp) rfl rfl (by simp [stopped, callsOf, Effect.call?])
  | failed fault =>
      obtain ⟨lost, gone, session, calls, -⟩ := started_failed turn fault
      refine balanced.stop active ?_ ?_ ?_ ?_ calls
      all_goals rw [session]
      exact (Nat.add_assoc _ _ _).symm

theorem relay (balanced : turn.Balanced past failed) (coherent : turn.session.Coherent)
    (payload : Octets) : (turn.relay payload).2.Balanced past failed := by
  obtain ⟨offered, lost, gone, session, calls, -, relayed⟩ := relay_offered turn payload
  have same : offered.Balanced past failed := by
    refine balanced.same ?_ ?_ ?_ ?_ (calls _)
    all_goals rw [session]
  have coherence : offered.session.Coherent := by
    rw [session]
    exact { coherent with }
  rw [relayed]
  exact same.unsubscribe coherence gone

theorem ended (balanced : turn.Balanced past failed) (coherent : turn.session.Coherent)
    (live : turn.session.state = .live) : turn.ended.Balanced past failed := by
  rw [ended_of_home (coherent.home_of_ne (by simp [live]))]
  exact balanced.stop (by simp [live]) rfl rfl rfl (Nat.add_right_comm _ _ _) (by simp)

theorem shutdown (balanced : turn.Balanced past failed) (coherent : turn.session.Coherent)
    (outcome : Outcome) :
    (turn.shutdown outcome).Balanced past
      (failed + if turn.session.state = .starting ∧ outcome.isFailed then 1 else 0) := by
  have emptied : (turn.withSubscribers []).Balanced past failed :=
    balanced.same rfl Iff.rfl rfl rfl rfl
  cases state : turn.session.state with
  | idle =>
      rw [shutdown_settled (coherent.token_of_ne (by simp [state])),
        if_neg (by simp [state])]
      simpa using emptied
  | starting =>
      rw [shutdown_pending (coherent.token.2 state)]
      simpa using emptied.started state outcome
  | live =>
      have home := coherent.home_of_ne (by simp [state])
      rw [shutdown_settled (coherent.token_of_ne (by simp [state])), if_pos state,
        stopLive_of_home (turn.withSubscribers []) home]
      exact balanced.stop (by simp [state]) rfl rfl rfl
        (by simp [withSubscribers, Nat.add_right_comm]) (by simp [withSubscribers])

/-- Every input keeps the balance, and only the failure of a pending start is counted. -/
theorem handle (balanced : turn.Balanced past failed) (coherent : turn.session.Coherent)
    (catchUp : List Octets) (input : Input) :
    (turn.handle catchUp input).Balanced past
      (failed + if (turn.session.settled? input).any Outcome.isFailed then 1 else 0) := by
  have quiet {last : Turn} (kept : last.Balanced past failed)
      (silent : turn.session.settled? input = none) : last.Balanced past
        (failed + if (turn.session.settled? input).any Outcome.isFailed then 1 else 0) := by
    simpa only [silent, Option.any_none, Bool.false_eq_true, if_false, Nat.add_zero] using kept
  cases input with
  | subscribe viewer format =>
      refine quiet ?_ (ite_self _)
      rw [Turn.handle]
      split
      · exact balanced.subscribe coherent viewer catchUp
      · exact balanced.unsubscribe coherent [viewer]
  | unsubscribe viewer => exact quiet (balanced.unsubscribe coherent [viewer]) (ite_self _)
  | started format outcome =>
      rw [Turn.handle]
      split
      case isTrue own =>
        have pending := coherent.away.1 own.2
        simpa [Session.settled?, Input.outcome?, own.1, pending] using
          balanced.started pending outcome
      case isFalse other => exact quiet balanced (coherent.settled?_started other outcome)
  | event format event =>
      refine quiet ?_ (ite_self _)
      cases event with
      | data payload =>
          rw [Turn.handle]
          split
          · exact balanced.relay coherent payload
          · exact balanced
      | ended reason =>
          rw [Turn.handle]
          split
          case isTrue own => exact balanced.ended coherent (coherent.listening.1 own.2)
          case isFalse => exact balanced
  | shutdown h264 jpeg =>
      have shut := balanced.shutdown coherent (turn.session.format.choose h264 jpeg)
      rw [Turn.handle]
      by_cases pending : turn.session.state = .starting
      · simpa [Session.settled?, Input.outcome?, pending] using shut
      · simpa [Session.settled?, pending] using shut
  | receive | close => exact quiet balanced (ite_self _)

end Balanced

end Turn

/-- This is the outcome of the start that a step settles for a format. -/
def Step.settled? (format : Format) (step : Step) : Option Outcome :=
  if step.before.station.isOpen then (step.before.station.session format).settled? step.input
  else none

/-- This counts the start attempts that failed. A cancelled attempt has not failed. -/
def failedStarts (format : Format) (steps : List Step) : Nat :=
  (steps.filterMap (Step.settled? format)).countP Outcome.isFailed

theorem failedStarts_append (format : Format) (steps : List Step) (step : Step) :
    failedStarts format (steps ++ [step]) = failedStarts format steps +
      if (step.settled? format).any Outcome.isFailed then 1 else 0 := by
  rw [failedStarts, failedStarts, List.filterMap_append, List.countP_append]
  cases settled : step.settled? format with
  | none => simp [settled]
  | some outcome => cases failed : outcome.isFailed <;> simp [settled, failed]

namespace Scene

/-- The calls of the steps so far are balanced for a format. -/
def Balanced (scene : Scene) (format : Format) (past : List Step) : Prop :=
  (scene.station.session format).Balanced (callsOf format (past.flatMap Step.effects))
    (failedStarts format past)

theorem Balanced.step {scene : Scene} {format : Format} {past : List Step}
    (balanced : scene.Balanced format past) (coherent : scene.Coherent) (input : Input) :
    (scene.step input).1.Balanced format (past ++ [scene.record input]) := by
  have own : (scene.turn format).session.format = format := coherent.sorted format
  unfold Balanced at balanced ⊢
  rw [failedStarts_append, List.flatMap_append, callsOf_append, List.flatMap_singleton]
  cases isOpen : scene.station.isOpen with
  | false =>
      obtain ⟨station, effects⟩ := step_of_closed isOpen input
      simpa [record, station, effects, Step.settled?, isOpen] using balanced
  | true =>
      have shows := handle_shows coherent.sorted input format
      have turned : (scene.turn format).Balanced (callsOf format (past.flatMap Step.effects))
          (failedStarts format past) := by
        rw [Turn.Balanced, own]
        simpa [turn] using balanced
      have handled := turned.handle (coherent.sessions format) (scene.catchUp format) input
      have kept := (Turn.Continues.handle (scene.turn format) (scene.catchUp format) input).format
      rw [Turn.Balanced, kept, own, ← shows.session, ← shows.effects, callsOf_effectsOf] at handled
      have settled : (scene.record input).settled? format =
          (scene.turn format).session.settled? input := if_pos isOpen
      rw [settled, record, step_of_open isOpen]
      exact handled

theorem Balanced.opened (serial : String) (mail : Mailboxes) (format : Format) :
    (Scene.opened serial mail).Balanced format [] := by
  cases format <;> exact ⟨.none, rfl, rfl⟩

/-- The calls of every run are balanced for both formats. -/
theorem Balanced.run (serial : String) (mail : Mailboxes) (inputs : List Input) (format : Format) :
    ((Scene.opened serial mail).run inputs).1.Balanced format
      ((Scene.opened serial mail).steps inputs) := by
  have first : (Scene.opened serial mail).Coherent ∧
      (Scene.opened serial mail).Balanced format [] :=
    ⟨Coherent.opened serial mail, Balanced.opened serial mail format⟩
  exact (run_induction (fun scene past => scene.Coherent ∧ scene.Balanced format past)
    (fun _ _ input held => ⟨held.1.step input, held.2.step held.1 input⟩) [] first inputs).2

/-- A source whose station was shut down is idle. -/
theorem idle_of_shutdown {scene : Scene} (coherent : scene.Coherent) (h264 jpeg : Outcome)
    (format : Format) :
    ((scene.step (.shutdown h264 jpeg)).1.station.session format).state = .idle := by
  refine (coherent.step _).closed ?_ format
  cases isOpen : scene.station.isOpen with
  | false => rw [(step_of_closed isOpen _).1, isOpen]
  | true => rw [step_of_open isOpen, handle_isOpen]

/-- In every run, the calls that a source receives begin with a start, and starts and stops
alternate. The counters of its session are the number of starts and one stop for each of them that
did not fail and is over. A shutdown leaves no source started. The outcome of a start is arbitrary:
nothing depends on whether a cancelled attempt was told to be. -/
theorem calls_balanced (serial : String) (mail : Mailboxes) (inputs : List Input)
    (format : Format) :
    let first := Scene.opened serial mail
    let session := (first.run inputs).1.station.session format
    let calls := callsOf format (first.run inputs).2
    Alternating calls session.nextCall ∧
      session.starts = calls.count .start ∧
      session.starts = session.stops + failedStarts format (first.steps inputs) + session.running ∧
      ∀ h264 jpeg, callsOf format (first.run (inputs ++ [.shutdown h264 jpeg])).2 = [] ∨
        (callsOf format (first.run (inputs ++ [.shutdown h264 jpeg])).2).getLast? = some .stop := by
  dsimp only
  obtain ⟨alternating, starts, counters⟩ := Balanced.run serial mail inputs format
  rw [← run_effects] at alternating starts
  refine ⟨alternating, starts, counters, fun h264 jpeg => Alternating.last_stop ?_⟩
  have shut := (Balanced.run serial mail (inputs ++ [.shutdown h264 jpeg]) format).alternating
  have idle := idle_of_shutdown ((Coherent.opened serial mail).run inputs) h264 jpeg format
  rw [← run_snoc] at idle
  rwa [Session.nextCall, if_pos idle, ← run_effects] at shut

end Scene

end Screencast.Broadcast
