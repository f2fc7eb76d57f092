/-
This file takes a run of a station apart into its steps and shows that every step keeps the station
coherent.
-/

import Screencast.Proofs.Broadcast.Viewers

namespace Screencast.Broadcast

namespace Scene

/-- Only a shutdown changes what is no part of the sessions and of the store. -/
theorem handle_part {Value : Type} (part : Station → Value)
    (set : ∀ (station : Station) (session : Session) (format : Format),
      part (station.setSession session format) = part station)
    (clear : ∀ (station : Station) (store : KeyframeStore),
      part { station with store } = part station) (scene : Scene) (input : Input) :
    part (scene.handle input).1.station =
      match input with
      | .shutdown .. => part { scene.station with isOpen := false }
      | _ => part scene.station := by
  have forget (scene : Scene) (format : Format) :
      part (scene.forget format).station = part scene.station := by
    cases format with
    | h264 => exact clear _ _
    | jpeg => rfl
  have apply (scene : Scene) (format : Format) (turn : Turn) :
      part (scene.apply format turn).station = part scene.station := set _ _ _
  have leave (scene : Scene) (format : Format) (viewer : ViewerId) :
      part (scene.leave format viewer).1.station = part scene.station := by
    unfold Scene.leave
    dsimp only
    split
    · exact (clear _ _).trans (apply _ _ _)
    · exact apply _ _ _
  cases input with
  | subscribe viewer format => exact (apply _ _ _).trans (leave _ _ _)
  | unsubscribe viewer => exact (leave _ _ _).trans (leave _ _ _)
  | started format outcome =>
      simp only [handle]
      split
      · rfl
      · exact (apply _ _ _).trans (forget _ _)
  | event format event =>
      cases heard : (scene.station.session format).listening with
      | false => rw [handle_event_unheard heard]
      | true =>
          cases event with
          | data payload =>
              rw [handle_data heard]
              cases format with
              | h264 =>
                  unfold relay
                  dsimp only
                  split
                  · exact (clear _ _).trans ((apply _ _ _).trans (clear _ _))
                  · exact (apply _ _ _).trans (clear _ _)
              | jpeg =>
                  unfold relay
                  dsimp only
                  split
                  · exact (clear _ _).trans (apply _ _ _)
                  · exact apply _ _ _
          | ended reason =>
              rw [handle_ended heard, forget]
              exact apply _ _ _
  | shutdown h264 jpeg =>
      exact (set { scene.station with isOpen := false, h264 := _ } _ .jpeg).trans
        (set { scene.station with isOpen := false } _ .h264)
  | receive | close => rfl

/-- Only a shutdown closes a station. -/
theorem handle_isOpen (scene : Scene) (input : Input) :
    (scene.handle input).1.station.isOpen =
      match input with
      | .shutdown .. => false
      | _ => scene.station.isOpen :=
  handle_part Station.isOpen (fun _ _ format => by cases format <;> rfl) (fun _ _ => rfl) scene
    input

/-- A station stays with its device. -/
theorem handle_serial (scene : Scene) (input : Input) :
    (scene.handle input).1.station.serial = scene.station.serial := by
  have same := handle_part Station.serial (fun _ _ format => by cases format <;> rfl)
    (fun _ _ => rfl) scene input
  cases input <;> exact same

theorem exists_shutdown_of_closed {scene : Scene} (isOpen : scene.station.isOpen = true)
    {input : Input} (shut : (scene.handle input).1.station.isOpen = false) :
    ∃ h264 jpeg, input = .shutdown h264 jpeg := by
  rw [handle_isOpen] at shut
  cases input with
  | shutdown h264 jpeg => exact ⟨h264, jpeg, rfl⟩
  | subscribe | unsubscribe | started | event | receive | close =>
      rw [isOpen] at shut
      cases shut

theorem step_of_open {scene : Scene} (isOpen : scene.station.isOpen = true) (input : Input) :
    scene.step input = scene.handle input := by
  cases input <;> simp [step, isOpen]

/-- A session of an open station sees its own part of a step. -/
theorem step_shows {scene : Scene} (sorted : scene.Sorted) (isOpen : scene.station.isOpen = true)
    (input : Input) (format : Format) :
    Shows (scene.step input) format
      ((scene.turn format).handle (scene.catchUp format) input) := by
  rw [step_of_open isOpen]
  exact handle_shows sorted input format

/-- A closed station stays as it is and does nothing. -/
theorem step_of_closed {scene : Scene} (closed : scene.station.isOpen = false) (input : Input) :
    (scene.step input).1.station = scene.station ∧ (scene.step input).2 = [] := by
  cases input <;> simp [step, handle, closed]

/-- A station is opened without viewers. The queues of its later viewers exist already. -/
def opened (serial : String) (mail : Mailboxes) : Scene := { station := { serial }, mail }

/-- The sessions of a station are coherent, and no viewer watches both formats. -/
structure Coherent (scene : Scene) : Prop where
  sorted : scene.Sorted
  sessions : ∀ format, (scene.station.session format).Coherent
  exclusive : ∀ viewer format, (scene.station.session format).contains viewer = true →
    (scene.station.session format.other).contains viewer = false
  closed : scene.station.isOpen = false → ∀ format,
    (scene.station.session format).state = .idle

namespace Coherent

theorem handle_exclusive {scene : Scene} (coherent : scene.Coherent) (input : Input)
    {viewer : ViewerId} {format : Format}
    (here : ((scene.handle input).1.station.session format).contains viewer = true) :
    ((scene.handle input).1.station.session format.other).contains viewer = false := by
  have own := coherent.sorted format
  have other := coherent.sorted format.other
  rw [(handle_shows coherent.sorted input format).session] at here
  rw [(handle_shows coherent.sorted input format.other).session]
  refine Bool.eq_false_iff.2 fun there => ?_
  rcases Turn.contains_handle (coherent.sessions format) _ _ here with known | arrival
  · rcases Turn.contains_handle (coherent.sessions format.other) _ _ there with both | arrival
    · exact absurd both (Bool.eq_false_iff.1 (coherent.exclusive viewer format known))
    · subst arrival
      refine absurd here (Bool.eq_false_iff.1 (Turn.contains_handle_elsewhere ?_ _ _))
      change (scene.station.session format.other).format ≠ (scene.station.session format).format
      rw [own, other]
      exact format.other_ne
  · subst arrival
    refine absurd there (Bool.eq_false_iff.1 (Turn.contains_handle_elsewhere ?_ _ _))
    change (scene.station.session format).format ≠ (scene.station.session format.other).format
    rw [own, other]
    exact format.other_ne.symm

theorem handle_closed {scene : Scene} (coherent : scene.Coherent)
    (isOpen : scene.station.isOpen = true) (input : Input)
    (shut : (scene.handle input).1.station.isOpen = false) (format : Format) :
    ((scene.handle input).1.station.session format).state = .idle := by
  obtain ⟨h264, jpeg, rfl⟩ := exists_shutdown_of_closed isOpen shut
  rw [(handle_shows coherent.sorted (.shutdown h264 jpeg) format).session]
  exact ((coherent.sessions format).shutdown _).2.1

theorem handle {scene : Scene} (coherent : scene.Coherent) (isOpen : scene.station.isOpen = true)
    (input : Input) : (scene.handle input).1.Coherent where
  sorted format := by
    rw [(handle_shows coherent.sorted input format).session]
    exact (Turn.Continues.handle _ _ _).format.trans (coherent.sorted format)
  sessions format := by
    rw [(handle_shows coherent.sorted input format).session]
    exact Session.Coherent.handle (coherent.sessions format) _ _
  exclusive _ _ := coherent.handle_exclusive input
  closed := coherent.handle_closed isOpen input

theorem ofStation {scene next : Scene} (coherent : scene.Coherent)
    (same : next.station = scene.station) : next.Coherent where
  sorted := by unfold Sorted; rw [same]; exact coherent.sorted
  sessions := by rw [same]; exact coherent.sessions
  exclusive := by rw [same]; exact coherent.exclusive
  closed := by rw [same]; exact coherent.closed

/-- Every step keeps a station coherent. -/
theorem step {scene : Scene} (coherent : scene.Coherent) (input : Input) :
    (scene.step input).1.Coherent := by
  cases isOpen : scene.station.isOpen with
  | true => rw [step_of_open isOpen]; exact coherent.handle isOpen input
  | false => exact coherent.ofStation (step_of_closed isOpen input).1

/-- A new station is coherent. -/
theorem opened (serial : String) (mail : Mailboxes) : (Scene.opened serial mail).Coherent where
  sorted format := by cases format <;> rfl
  sessions format := by cases format <;> exact Session.Coherent.new _
  exclusive viewer format _ := by cases format <;> rfl
  closed shut := by cases shut

end Coherent

end Scene

namespace Scene

/-- The source of a format is running for its viewers. -/
def isLive (scene : Scene) (format : Format) : Bool :=
  (scene.station.session format).state = .live

theorem isLive_handle {scene : Scene} (coherent : scene.Coherent) (input : Input)
    (format : Format) :
    (scene.handle input).1.isLive format =
      decide (((scene.turn format).handle (scene.catchUp format) input).session.state = .live) := by
  rw [isLive, (handle_shows coherent.sorted input format).session]

end Scene

namespace Input

/-- This is the payload that an input brings from the source of a format. -/
def payload? (format : Format) : Input → Option Octets
  | .event own (.data payload) => if own = format then some payload else none
  | _ => none

end Input

/-- A step leads from one scene to the next by an input and has effects. -/
structure Step where
  before : Scene
  input : Input
  after : Scene
  effects : List Effect
  deriving DecidableEq, Repr

namespace Step

/-- A stream begins with this step. -/
def goesLive (format : Format) (step : Step) : Bool :=
  !step.before.isLive format && step.after.isLive format

/-- This is the payload that a running stream relays in a step. -/
def relayed? (format : Format) (step : Step) : Option Octets :=
  if step.before.isLive format then step.input.payload? format else none

theorem relayed?_of_quiet {format : Format} {step : Step}
    (quiet : step.before.isLive format = false) : step.relayed? format = none :=
  if_neg (by rw [quiet]; exact Bool.false_ne_true)

theorem relayed?_of_silent {format : Format} {step : Step}
    (silent : step.input.payload? format = none) : step.relayed? format = none := by
  rw [relayed?, silent, ite_self]

end Step

namespace Scene

/-- This is the step that an input causes. -/
def record (scene : Scene) (input : Input) : Step :=
  ⟨scene, input, (scene.step input).1, (scene.step input).2⟩

/-- These are the steps of a run in their order. -/
def steps (scene : Scene) : List Input → List Step
  | [] => []
  | input :: rest => scene.record input :: (scene.step input).1.steps rest

/-- The effects of a run are those of its steps. -/
theorem run_effects (scene : Scene) (inputs : List Input) :
    (scene.run inputs).2 = (scene.steps inputs).flatMap Step.effects := by
  induction inputs generalizing scene with
  | nil => rfl
  | cons input rest inductionHypothesis =>
      simp only [run, steps, List.flatMap_cons, inductionHypothesis]
      rfl

/-- The last step of a run begins where the other ones end. -/
theorem run_snoc (scene : Scene) (inputs : List Input) (input : Input) :
    (scene.run (inputs ++ [input])).1 = ((scene.run inputs).1.step input).1 := by
  induction inputs generalizing scene with
  | nil => rfl
  | cons first rest inductionHypothesis => exact inductionHypothesis (scene.step first).1

/-- What holds at first and is kept by every step holds after every run. -/
theorem run_induction (Holds : Scene → List Step → Prop)
    (next : ∀ scene past input, Holds scene past →
      Holds (scene.step input).1 (past ++ [scene.record input]))
    {scene : Scene} (past : List Step) (first : Holds scene past) (inputs : List Input) :
    Holds (scene.run inputs).1 (past ++ scene.steps inputs) := by
  induction inputs generalizing scene past with
  | nil => simpa [run, steps] using first
  | cons input rest inductionHypothesis =>
      simpa [run, steps] using inductionHypothesis _ (next scene past input first)

theorem Coherent.run {scene : Scene} (coherent : scene.Coherent) (inputs : List Input) :
    (scene.run inputs).1.Coherent :=
  run_induction (fun scene _ => scene.Coherent) (fun _ _ input coherent => coherent.step input)
    [] coherent inputs

/-- After every run, no viewer watches both formats, and the state of a session decides what else
it holds. Only a live session receives events and has a description of its stream, and it has a
viewer. Only a starting session has handed out its source and holds a token, which is cancelled
once nobody is left. The viewers of a live session are announced, and no others are. -/
theorem run_settled (serial : String) (mail : Mailboxes) (inputs : List Input) :
    let station := ((opened serial mail).run inputs).1.station
    (∀ viewer, ¬ (station.h264.contains viewer = true ∧ station.jpeg.contains viewer = true)) ∧
      ∀ format,
        let session := station.session format
        ((session.listening = true ↔ session.state = .live) ∧
            (session.info.isSome ↔ session.state = .live)) ∧
          ((session.sourceHome = false ↔ session.state = .starting) ∧
            (session.token.isSome ↔ session.state = .starting)) ∧
          (session.state = .live → session.subscribers ≠ []) ∧
          (session.state = .starting → session.subscribers = [] → session.token = some true) ∧
          ∀ subscriber ∈ session.subscribers,
            subscriber.announced = true ↔ session.state = .live := by
  intro station
  have coherent := (Coherent.opened serial mail).run inputs
  constructor
  · rintro viewer ⟨recorded, grabbed⟩
    have elsewhere : station.jpeg.contains viewer = false :=
      coherent.exclusive viewer .h264 recorded
    rw [grabbed] at elsewhere
    cases elsewhere
  · intro format session
    have own : session.Coherent := coherent.sessions format
    exact ⟨⟨own.listening, own.described⟩, ⟨own.away, own.token⟩, own.watched, own.cancelled,
      own.announced⟩

/-- The start for a viewer that left meanwhile is cancelled. -/
theorem run_settled_deserted :
    let station := ((opened "device" ⟨[("viewer", .create 8)]⟩).run
      [.subscribe "viewer" .h264, .unsubscribe "viewer"]).1.station
    station.h264.state = .starting ∧ station.h264.subscribers = [] ∧
      station.h264.token = some true := by
  intro station
  have starting : station.h264.state = .starting := by decide +kernel
  have deserted : station.h264.subscribers = [] := by decide +kernel
  obtain ⟨-, -, -, cancelled, -⟩ := (run_settled "device" ⟨[("viewer", .create 8)]⟩
    [.subscribe "viewer" .h264, .unsubscribe "viewer"]).2 .h264
  exact ⟨starting, deserted, cancelled starting deserted⟩

end Scene

end Screencast.Broadcast
