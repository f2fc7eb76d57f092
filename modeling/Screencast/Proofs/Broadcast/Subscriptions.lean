/-
This file shows that nobody subscribes in vain. A viewer waits for a start or watches a stream until
the start fails or the stream ends.
-/

import Mathlib.Data.List.DropRight
import Screencast.Proofs.Broadcast.Calls

namespace Screencast.Broadcast

namespace Input

/-- The stream of a format ends by itself. -/
def ends (format : Format) : Input → Bool
  | .event own (.ended _) => own = format
  | _ => false

/-- A viewer leaves a format or goes to the other one. -/
def removes (format : Format) (viewer : ViewerId) : Input → Bool
  | .subscribe other chosen => other = viewer && chosen ≠ format
  | .unsubscribe other => other = viewer
  | _ => false

end Input

theorem Session.subscribers_ne_nil {session : Session} {viewer : ViewerId}
    (here : session.contains viewer = true) : session.subscribers ≠ [] := by
  intro empty
  simp [contains, empty] at here

namespace Turn

variable {turn : Turn}

/-- Viewers that leave others behind do not change the state of a session. -/
theorem state_unsubscribe {gone : List ViewerId}
    (watched : (turn.unsubscribe gone).2.session.subscribers ≠ []) :
    (turn.unsubscribe gone).2.session.state = turn.session.state := by
  have left := unsubscribe_left turn gone
  generalize turn.unsubscribe gone = result at left watched
  cases left with
  | nobody | some | idle | starting => rfl
  | live empty => exact absurd ((stopLive_subscribers _).trans empty) watched

/-- A viewer that subscribes starts the source, waits for its start or watches its stream. -/
theorem subscribe_active (coherent : turn.session.Coherent) (viewer : ViewerId)
    (catchUp : List Octets) : (turn.subscribe viewer catchUp).session.state ≠ .idle := by
  have joined := coherent.subscribe_joined viewer catchUp
  generalize turn.subscribe viewer catchUp = last at joined
  cases joined with
  | starts => simp
  | waits starting => simp [Session.join, starting]
  | stays live => simp [live]
  | told live => simp [Session.markAnnounced, Session.join, live]

/-- Of the starts that somebody waits for, only those that fail leave the session idle. -/
theorem isFailed_of_idle {outcome : Outcome}
    (idle : (turn.started outcome).session.state = .idle)
    (watched : (turn.started outcome).session.subscribers ≠ []) : outcome.isFailed = true := by
  by_cases empty : turn.session.subscribers = []
  · obtain ⟨⟨lost, session⟩, -, -⟩ := turn.started_unwatched empty outcome
    rw [session] at watched
    exact absurd empty watched
  cases outcome with
  | live info =>
      rw [(started_live_watched empty info).1] at idle
      cases idle
  | cancelled =>
      rw [started_cancelled_watched empty] at idle
      cases idle
  | failed => rfl

/-- A session with viewers gets idle only by a start that fails or by the end of its stream. -/
theorem interrupted_of_idle (coherent : turn.session.Coherent) (catchUp : List Octets)
    (input : Input) (active : turn.session.state ≠ .idle)
    (idle : (turn.handle catchUp input).session.state = .idle)
    (watched : (turn.handle catchUp input).session.subscribers ≠ []) :
    (turn.session.settled? input).any Outcome.isFailed = true ∨
      (turn.session.state = .live ∧ input.ends turn.session.format = true) := by
  have leaves {gone : List ViewerId} (idle : (turn.unsubscribe gone).2.session.state = .idle)
      (watched : (turn.unsubscribe gone).2.session.subscribers ≠ []) :=
    active ((state_unsubscribe watched).symm.trans idle)
  cases input with
  | subscribe viewer format =>
      rw [handle] at idle watched
      split at idle
      case isTrue => exact absurd idle (subscribe_active coherent viewer catchUp)
      case isFalse other =>
        rw [if_neg other] at watched
        exact (leaves idle watched).elim
  | unsubscribe viewer => exact (leaves idle watched).elim
  | started format outcome =>
      rw [handle] at idle watched
      split at idle
      case isTrue own =>
        rw [if_pos own] at watched
        rw [Session.settled?_of_pending (coherent.away.1 own.2), Input.outcome?, if_pos own.1]
        exact .inl (isFailed_of_idle idle watched)
      case isFalse => exact absurd idle active
  | event format event =>
      cases event with
      | data payload =>
          rw [handle] at idle watched
          split at idle
          case isTrue own =>
            obtain ⟨offered, lost, gone, session, -, -, relayed⟩ := relay_offered turn payload
            rw [if_pos own, relayed] at watched
            rw [relayed, state_unsubscribe watched, session] at idle
            exact absurd idle active
          case isFalse => exact absurd idle active
      | ended reason =>
          rw [handle] at idle
          split at idle
          case isTrue own =>
            exact .inr ⟨coherent.listening.1 own.2, decide_eq_true own.1⟩
          case isFalse => exact absurd idle active
  | shutdown h264 jpeg => exact absurd (coherent.shutdown _).2.2 watched
  | receive | close => exact absurd idle active

/-- A viewer waits for a pending start while nothing is reported and it does not leave. -/
theorem handle_waits (coherent : turn.session.Coherent) (catchUp : List Octets) {input : Input}
    {viewer : ViewerId} (pending : turn.session.state = .starting)
    (here : turn.session.contains viewer = true)
    (silent : input.outcome? turn.session.format = none)
    (stays : input.removes turn.session.format viewer = false) :
    (turn.handle catchUp input).session.state = .starting ∧
      (turn.handle catchUp input).session.contains viewer = true := by
  have leaves {other : ViewerId} (distinct : other ≠ viewer) :
      (turn.unsubscribe [other]).2.session.state = .starting ∧
        (turn.unsubscribe [other]).2.session.contains viewer = true := by
    have kept := (contains_unsubscribe turn [other] viewer).2 ⟨here, by simpa using distinct.symm⟩
    exact ⟨(state_unsubscribe (Session.subscribers_ne_nil kept)).trans pending, kept⟩
  cases input with
  | subscribe other format =>
      rw [handle]
      split
      case isTrue own =>
        refine ⟨?_, (contains_subscribe coherent other catchUp viewer).2 (.inl here)⟩
        have joined := coherent.subscribe_joined other catchUp
        generalize turn.subscribe other catchUp = last at joined
        cases joined with
        | starts idle => cases idle.symm.trans pending
        | waits => exact pending
        | stays live | told live => cases live.symm.trans pending
      case isFalse other =>
        refine leaves ?_
        rintro rfl
        simp [Input.removes, other] at stays
  | unsubscribe other => exact leaves (of_decide_eq_false stays)
  | started format outcome =>
      rw [handle, if_neg]
      · exact ⟨pending, here⟩
      · rintro ⟨rfl, -⟩
        simp [Input.outcome?] at silent
  | event format event =>
      have deaf : ¬ (format = turn.session.format ∧ turn.session.listening = true) := by
        rintro ⟨-, listening⟩
        cases (coherent.listening.1 listening).symm.trans pending
      cases event <;> rw [handle, if_neg deaf] <;> exact ⟨pending, here⟩
  | shutdown => cases silent
  | receive | close => exact ⟨pending, here⟩

end Turn

/-- In a step, a start fails or a running stream ends by itself. -/
def Step.interrupts (format : Format) (step : Step) : Bool :=
  (step.settled? format).any Outcome.isFailed ||
    step.before.isLive format && step.input.ends format

/-- These are the steps since a viewer subscribed to a format last. -/
def sinceSubscribe (format : Format) (viewer : ViewerId) (steps : List Step) : List Step :=
  steps.rtakeWhile fun step => step.input ≠ .subscribe viewer format

theorem sinceSubscribe_snoc (format : Format) (viewer : ViewerId) (steps : List Step)
    (step : Step) :
    sinceSubscribe format viewer (steps ++ [step]) =
      if step.input = .subscribe viewer format then []
      else sinceSubscribe format viewer steps ++ [step] := by
  rw [sinceSubscribe, List.rtakeWhile_concat]
  by_cases again : step.input = .subscribe viewer format <;> simp [again, sinceSubscribe]

namespace Scene

variable {scene : Scene} {format : Format} {viewer : ViewerId} {past : List Step}

/-- A closed station has no viewers. -/
def Deserted (scene : Scene) : Prop :=
  scene.station.isOpen = false → ∀ format, (scene.station.session format).subscribers = []

theorem Deserted.step (deserted : scene.Deserted) (coherent : scene.Coherent) (input : Input) :
    (scene.step input).1.Deserted := by
  intro closed format
  cases isOpen : scene.station.isOpen with
  | false =>
      rw [(step_of_closed isOpen input).1]
      exact deserted isOpen format
  | true =>
      rw [step_of_open isOpen] at closed
      obtain ⟨h264, jpeg, rfl⟩ := exists_shutdown_of_closed isOpen closed
      rw [(step_shows coherent.sorted isOpen (.shutdown h264 jpeg) format).session]
      exact ((coherent.sessions format).shutdown _).2.2

/-- A viewer of an idle session was interrupted since it subscribed last. -/
structure Served (scene : Scene) (format : Format) (viewer : ViewerId) (past : List Step) :
    Prop where
  subscribed : ∃ step ∈ past, step.input = .subscribe viewer format
  interrupted : (scene.station.session format).state = .idle →
    ∃ step ∈ sinceSubscribe format viewer past, step.interrupts format = true

/-- A viewer that subscribes is served at once, and any other input that interrupts it is
remembered. -/
theorem Served.step (coherent : scene.Coherent) (deserted : scene.Deserted)
    (served : (scene.station.session format).contains viewer = true →
      scene.Served format viewer past) (input : Input)
    (here : ((scene.step input).1.station.session format).contains viewer = true) :
    (scene.step input).1.Served format viewer (past ++ [scene.record input]) := by
  cases isOpen : scene.station.isOpen with
  | false =>
      rw [(step_of_closed isOpen input).1] at here
      exact absurd (deserted isOpen format) (Session.subscribers_ne_nil here)
  | true =>
      have own : (scene.turn format).session.format = format := coherent.sorted format
      have shows := step_shows coherent.sorted isOpen input format
      have session : (scene.turn format).session.Coherent := coherent.sessions format
      have settled : (scene.record input).settled? format =
          (scene.turn format).session.settled? input := if_pos isOpen
      rw [shows.session] at here
      have known := Turn.contains_handle session (scene.catchUp format) input here
      rw [own] at known
      by_cases again : input = .subscribe viewer format
      · subst again
        refine ⟨⟨_, List.mem_append_right _ List.mem_cons_self, rfl⟩, fun idle => ?_⟩
        rw [shows.session, Turn.handle, if_pos own.symm] at idle
        exact absurd idle (Turn.subscribe_active session viewer _)
      · obtain ⟨⟨step, member, subscribed⟩, interrupted⟩ := served (known.resolve_right again)
        refine ⟨⟨step, List.mem_append_left _ member, subscribed⟩, fun idle => ?_⟩
        rw [sinceSubscribe_snoc, if_neg (show (scene.record input).input ≠ _ from again)]
        rw [shows.session] at idle
        -- The session was idle before, or this very step interrupts the viewer.
        by_cases before : (scene.station.session format).state = .idle
        · obtain ⟨cause, known, interrupts⟩ := interrupted before
          exact ⟨cause, List.mem_append_left _ known, interrupts⟩
        · refine ⟨_, List.mem_append_right _ List.mem_cons_self, ?_⟩
          have cause := Turn.interrupted_of_idle session (scene.catchUp format) input before idle
            (Session.subscribers_ne_nil here)
          rw [own, ← settled] at cause
          rw [Step.interrupts, Bool.or_eq_true, Bool.and_eq_true]
          exact cause.imp id (And.imp decide_eq_true id)

/-- Every viewer of every run is served. -/
theorem Served.run (serial : String) (mail : Mailboxes) (inputs : List Input) :
    let last := ((opened serial mail).run inputs).1
    (last.station.session format).contains viewer = true →
      last.Served format viewer ((opened serial mail).steps inputs) := by
  have first : (opened serial mail).Coherent ∧ (opened serial mail).Deserted ∧
      (((opened serial mail).station.session format).contains viewer = true →
        (opened serial mail).Served format viewer []) := by
    refine ⟨Coherent.opened serial mail, fun closed => (by cases closed), fun here => ?_⟩
    cases format <;> cases here
  exact (run_induction (fun scene past => scene.Coherent ∧ scene.Deserted ∧
      ((scene.station.session format).contains viewer = true → scene.Served format viewer past))
    (fun _ _ input held => ⟨held.1.step input, held.2.1.step held.1 input,
      Served.step held.1 held.2.1 held.2.2 input⟩) [] first inputs).2.2

/-- A viewer waits for a pending start. -/
structure Waits (scene : Scene) (format : Format) (viewer : ViewerId) : Prop where
  coherent : scene.Coherent
  isOpen : scene.station.isOpen = true
  pending : (scene.station.session format).state = .starting
  here : (scene.station.session format).contains viewer = true

namespace Waits

theorem step (waits : scene.Waits format viewer) {input : Input}
    (silent : input.outcome? format = none) (stays : input.removes format viewer = false) :
    (scene.step input).1.Waits format viewer := by
  obtain ⟨coherent, isOpen, pending, here⟩ := waits
  have own : (scene.turn format).session.format = format := coherent.sorted format
  have waiting := Turn.handle_waits (coherent.sessions format) (scene.catchUp format) pending here
    (by rwa [own]) (by rwa [own])
  rw [← (step_shows coherent.sorted isOpen input format).session] at waiting
  refine ⟨coherent.step input, ?_, waiting.1, waiting.2⟩
  rw [step_of_open isOpen]
  by_contra closed
  obtain ⟨h264, jpeg, rfl⟩ := exists_shutdown_of_closed isOpen (Bool.eq_false_iff.2 closed)
  cases silent

theorem run (waits : scene.Waits format viewer) {inputs : List Input}
    (stays : ∀ input ∈ inputs,
      input.outcome? format = none ∧ input.removes format viewer = false) :
    (scene.run inputs).1.Waits format viewer := by
  induction inputs generalizing scene with
  | nil => exact waits
  | cons input rest inductionHypothesis =>
      have first := stays input List.mem_cons_self
      exact inductionHypothesis (waits.step first.1 first.2)
        fun later member => stays later (List.mem_cons_of_mem _ member)

/-- A viewer that subscribes while a start is pending waits for it. -/
theorem ofSubscribe (coherent : scene.Coherent)
    (pending : (scene.station.session format).state = .starting) :
    (scene.step (.subscribe viewer format)).1.Waits format viewer := by
  have session : (scene.turn format).session.Coherent := coherent.sessions format
  have own : (scene.turn format).session.format = format := coherent.sorted format
  cases isOpen : scene.station.isOpen with
  | false => cases pending.symm.trans (coherent.closed isOpen format)
  | true =>
      have shows := step_shows coherent.sorted isOpen (.subscribe viewer format) format
      rw [Turn.handle, if_pos own.symm] at shows
      refine ⟨coherent.step _, ?_, ?_, ?_⟩
      · rw [step_of_open isOpen]
        exact (handle_isOpen scene _).trans isOpen
      · have joined := session.subscribe_joined viewer (scene.catchUp format)
        rw [shows.session]
        generalize (scene.turn format).subscribe viewer (scene.catchUp format) = last at joined
        cases joined with
        | starts idle => cases idle.symm.trans pending
        | waits => exact pending
        | stays live | told live => cases live.symm.trans pending
      · rw [shows.session]
        exact (Turn.contains_subscribe session viewer _ viewer).2 (.inr rfl)

/-- The outcome of the start serves those who wait for it. -/
theorem started (waits : scene.Waits format viewer) (outcome : Outcome) :
    Shows (scene.step (.started format outcome)) format
      ((scene.turn format).started outcome) := by
  obtain ⟨coherent, isOpen, pending, -⟩ := waits
  have own : (scene.turn format).session.format = format := coherent.sorted format
  have shows := step_shows coherent.sorted isOpen (.started format outcome) format
  rwa [Turn.handle, if_pos ⟨own.symm, (coherent.sessions format).away.2 pending⟩] at shows

/-- A start that succeeds serves those who wait for it. -/
theorem live (waits : scene.Waits format viewer) (info : StartInfo) :
    let next := (scene.step (.started format (.live info))).1
    (next.station.session format).contains viewer = true ∧
      (next.station.session format).state = .live := by
  have shows := waits.started (.live info)
  have watched : (scene.turn format).session.subscribers ≠ [] :=
    Session.subscribers_ne_nil waits.here
  have here := waits.here
  dsimp only
  rw [shows.session, (Turn.started_live_watched watched info).1]
  exact ⟨by simpa [Session.contains, turn] using here, rfl⟩

/-- A start that was cancelled is made again for those who wait for it. -/
theorem restarted (waits : scene.Waits format viewer) :
    let next := scene.step (.started format .cancelled)
    (next.1.station.session format).contains viewer = true ∧
      (next.1.station.session format).state = .starting ∧
      (next.1.station.session format).token = some false ∧
      callsOf format next.2 = [.stop, .start] := by
  have shows := waits.started .cancelled
  have own : (scene.turn format).session.format = format := waits.coherent.sorted format
  have watched : (scene.turn format).session.subscribers ≠ [] :=
    Session.subscribers_ne_nil waits.here
  rw [Turn.started_cancelled_watched watched, own] at shows
  dsimp only
  rw [← callsOf_effectsOf, shows.effects, shows.session]
  refine ⟨waits.here, rfl, rfl, ?_⟩
  simp [turn, callsOf, Effect.call?]

end Waits

/-- Nobody subscribes in vain. In every run, a viewer of a format has subscribed to it, and when its
session is idle, a start failed or the stream ended since the viewer did so last. A viewer that
subscribes while a start is pending, also one that is being cancelled because everybody left, has
another start or a stream after the outcome, whether the start succeeds or is cancelled. -/
theorem no_lost_subscribe (serial : String) (mail : Mailboxes) (inputs : List Input)
    (format : Format) (viewer : ViewerId) :
    let first := opened serial mail
    let scene := (first.run inputs).1
    let session := scene.station.session format
    (session.contains viewer = true →
      (∃ step ∈ first.steps inputs, step.input = .subscribe viewer format) ∧
      (session.state = .idle → ∃ step ∈ sinceSubscribe format viewer (first.steps inputs),
        step.interrupts format = true)) ∧
    (session.state = .starting → ∀ later : List Input,
      (∀ input ∈ later, input.outcome? format = none ∧ input.removes format viewer = false) →
      let waiting := (scene.run (.subscribe viewer format :: later)).1
      let served := fun outcome => waiting.step (.started format outcome)
      (∀ info, ((served (.live info)).1.station.session format).contains viewer = true ∧
        ((served (.live info)).1.station.session format).state = .live) ∧
      ((served .cancelled).1.station.session format).contains viewer = true ∧
      ((served .cancelled).1.station.session format).state = .starting ∧
      ((served .cancelled).1.station.session format).token = some false ∧
      callsOf format (served .cancelled).2 = [.stop, .start]) := by
  intro first scene session
  refine ⟨fun here => ?_, fun pending later stays => ?_⟩
  · obtain ⟨subscribed, interrupted⟩ := Served.run serial mail inputs here
    exact ⟨subscribed, interrupted⟩
  · have coherent : scene.Coherent := (Coherent.opened serial mail).run inputs
    have joined : (scene.step (.subscribe viewer format)).1.Waits format viewer :=
      .ofSubscribe coherent pending
    have waits := joined.run stays
    exact ⟨waits.live, waits.restarted⟩

/-- One viewer stays when a start fails. Another one comes while a start is being cancelled. -/
theorem no_lost_subscribe_cancelled :
    (∃ step ∈ sinceSubscribe .h264 "one" ((opened "device" {}).steps
        [.subscribe "one" .h264, .started .h264 (.failed .relayClosed)]),
      step.interrupts .h264 = true) ∧
    callsOf .h264 (((((opened "device" {}).run
        [.subscribe "one" .h264, .unsubscribe "one"]).1.run
          [.subscribe "two" .h264, .event .h264 (.data [1])]).1.step
            (.started .h264 .cancelled)).2) = [.stop, .start] := by
  constructor
  · exact ((no_lost_subscribe "device" {} [.subscribe "one" .h264,
      .started .h264 (.failed .relayClosed)] .h264 "one").1 (by decide +kernel)).2
        (by decide +kernel)
  · have served := (no_lost_subscribe "device" {} [.subscribe "one" .h264, .unsubscribe "one"]
      .h264 "two").2 (by decide +kernel) [.event .h264 (.data [1])] (by decide +kernel)
    exact served.2.2.2.2

end Scene

end Screencast.Broadcast
