/-
This file compares the count of a session with the messages that full queues lost. A session counts
the payloads and the failure reports among them, but not what it tells a viewer that joins.
-/

import Screencast.Proofs.Broadcast.Stations

namespace Screencast.Broadcast

namespace Effect

/-- A full queue lost the message. -/
def isLost : Effect → Bool
  | .offer _ _ _ .dropped => true
  | _ => false

end Effect

/-- This many messages found a full queue. -/
def lost (effects : List Effect) : Nat := effects.countP Effect.isLost

@[simp] theorem lost_nil : lost [] = 0 := rfl

@[simp] theorem lost_append (first second : List Effect) :
    lost (first ++ second) = lost first + lost second :=
  List.countP_append

@[simp] theorem lost_call (format : Format) (call : SourceCall) : lost [.call format call] = 0 :=
  rfl

@[simp] theorem lost_offer (format : Format) (viewer : ViewerId) (message : Message)
    (delivery : Delivery) :
    lost [.offer format viewer message delivery] = if delivery = .dropped then 1 else 0 := by
  cases delivery <;> rfl

namespace Turn

/-- From one stage of a turn to a later one, each message that a full queue lost was counted. -/
def Counts (turn later : Turn) : Prop :=
  later.session.dropped + lost turn.effects = turn.session.dropped + lost later.effects

namespace Counts

/-- A change of the session that keeps its count does not matter. -/
theorem session {turn : Turn} {session : Session}
    (dropped : session.dropped = turn.session.dropped) : Counts turn { turn with session } := by
  rw [Counts, dropped]

theorem refl (turn : Turn) : Counts turn turn := rfl

theorem trans {turn middle last : Turn} (former : Counts turn middle)
    (latter : Counts middle last) : Counts turn last := by
  unfold Counts at *
  omega

theorem before {turn later : Turn} {session : Session}
    (counts : Counts { turn with session } later)
    (dropped : session.dropped = turn.session.dropped) : Counts turn later :=
  (Counts.session dropped).trans counts

theorem call (turn : Turn) (request : SourceCall) : Counts turn (turn.call request) := by
  simp [Counts, Turn.call]

theorem start (turn : Turn) : Counts turn turn.start := by
  unfold Turn.start
  split
  · exact before (call _ _) rfl
  · exact refl turn

theorem stopSource (turn : Turn) : Counts turn turn.stopSource := by
  unfold Turn.stopSource
  split
  · exact (call turn .stop).trans (session rfl)
  · exact session rfl

theorem stopLive (turn : Turn) : Counts turn turn.stopLive := before (stopSource _) rfl

theorem unsubscribe (turn : Turn) (gone : List ViewerId) :
    Counts turn (turn.unsubscribe gone).2 := by
  have left := unsubscribe_left turn gone
  generalize turn.unsubscribe gone = result at left
  cases left with
  | nobody => exact refl turn
  | some | idle | starting => exact session rfl
  | live => exact before (stopLive _) rfl

/-- The count goes up with each message that is lost. -/
theorem offerCounted (message : Message) (state : List ViewerId × Turn) (viewer : ViewerId) :
    Counts state.2 (offerCounted message state viewer).2 := by
  have session := offer_session state.2 viewer message
  have effects := offer_effects state.2 viewer message
  rcases found : state.2.offer viewer message with ⟨delivery, next⟩
  simp only [found] at session effects
  simp only [Counts, Turn.offerCounted, found]
  cases delivery with
  | sent | closed => simp [session, effects]
  | dropped =>
      simp only [session, effects, lost_append, lost_offer, if_pos]
      omega

theorem foldl_offerCounted (message : Message) (state : List ViewerId × Turn)
    (viewers : List ViewerId) :
    Counts state.2 (viewers.foldl (Turn.offerCounted message) state).2 := by
  induction viewers generalizing state with
  | nil => exact refl _
  | cons first rest inductionHypothesis =>
      exact (offerCounted message state first).trans (inductionHypothesis _)

theorem deliver (turn : Turn) (message : Message) (viewers : List ViewerId) :
    Counts turn (turn.deliver message viewers).2 :=
  (foldl_offerCounted message ([], turn) viewers).trans (unsubscribe _ _)

theorem relay (turn : Turn) (payload : Octets) : Counts turn (turn.relay payload).2 :=
  before (deliver _ _ _) rfl

theorem ended (turn : Turn) : Counts turn turn.ended := (stopLive turn).trans (session rfl)

theorem cancelled (turn : Turn) : Counts turn (turn.started .cancelled) := by
  unfold Turn.started
  dsimp only
  split
  · exact before ((call _ _).trans (session rfl)) rfl
  · exact before ((call _ _).trans (before (start _) rfl)) rfl

theorem failed (turn : Turn) (fault : Fault) : Counts turn (turn.started (.failed fault)) := by
  unfold Turn.started
  dsimp only
  split
  · exact before ((call _ _).trans (deliver _ _ _)) rfl
  · exact before (call _ _) rfl

/-- A shutdown tells no viewer anything, so a start that still succeeds is counted in full. -/
theorem shutdown (turn : Turn) (outcome : Outcome) : Counts turn (turn.shutdown outcome) := by
  cases token : turn.session.token with
  | none =>
      rw [shutdown_settled token]
      split
      · exact before (stopLive _) rfl
      · exact session rfl
  | some cancelled =>
      rw [shutdown_pending (by rw [token]; rfl)]
      cases outcome with
      | live info =>
          rw [started_live_unwatched rfl]
          exact before (call _ .stop) rfl
      | cancelled => exact before (Counts.cancelled _) rfl
      | failed fault => exact before (failed _ fault) rfl

end Counts

section

variable (turn : Turn)

theorem dropped_start : turn.start.session.dropped = turn.session.dropped := by
  unfold start
  split <;> rfl

theorem dropped_stopLive : turn.stopLive.session.dropped = turn.session.dropped := by
  unfold stopLive stopSource
  split <;> rfl

theorem dropped_unsubscribe (gone : List ViewerId) :
    (turn.unsubscribe gone).2.session.dropped = turn.session.dropped := by
  have left := unsubscribe_left turn gone
  generalize turn.unsubscribe gone = result at left
  cases left with
  | nobody | some | idle | starting => rfl
  | live => exact dropped_stopLive _

/-- What becomes of an announcement is not looked at. -/
theorem dropped_announce (info : StartInfo) (catchUp : List Octets) (viewer : ViewerId) :
    (turn.announce info catchUp viewer).session.dropped = turn.session.dropped := by
  rw [announce_session]
  rfl

theorem dropped_subscribe (viewer : ViewerId) (catchUp : List Octets) :
    (turn.subscribe viewer catchUp).session.dropped = turn.session.dropped := by
  unfold subscribe
  dsimp only
  split
  · exact dropped_start _
  · rfl
  · split
    · rfl
    · split
      · exact dropped_announce _ _ _ _
      · rfl

theorem dropped_started_live (info : StartInfo) :
    (turn.started (.live info)).session.dropped = turn.session.dropped := by
  by_cases watched : turn.session.subscribers = []
  · rw [started_live_unwatched watched]
  · rw [(started_live_watched watched info).1]

end

end Turn

namespace Input

/-- With this input a session may tell a viewer the start of the stream. -/
def announces : Input → Bool
  | .subscribe .. | .started _ (.live _) => true
  | _ => false

end Input

namespace Turn

/-- Whatever does not announce a stream is counted. -/
theorem Counts.handle (turn : Turn) (catchUp : List Octets) {input : Input}
    (silent : input.announces = false) : Counts turn (turn.handle catchUp input) := by
  cases input with
  | subscribe viewer format => cases silent
  | unsubscribe viewer => exact unsubscribe _ _
  | started format outcome =>
      rw [Turn.handle]
      split
      · cases outcome with
        | live info => cases silent
        | cancelled => exact cancelled _
        | failed fault => exact failed _ fault
      · exact refl _
  | event format event =>
      cases event with
      | data payload =>
          rw [Turn.handle]
          split
          · exact relay _ _
          · exact refl _
      | ended reason =>
          rw [Turn.handle]
          split
          · exact ended _
          · exact refl _
  | shutdown h264 jpeg => exact shutdown _ _
  | receive | close => exact refl _

/-- Nothing is counted when a stream is announced. -/
theorem dropped_handle (turn : Turn) (catchUp : List Octets) {input : Input}
    (announces : input.announces = true) :
    (turn.handle catchUp input).session.dropped = turn.session.dropped := by
  cases input with
  | subscribe viewer format =>
      rw [Turn.handle]
      split
      · exact dropped_subscribe _ _ _
      · exact dropped_unsubscribe _ _
  | started format outcome =>
      rw [Turn.handle]
      split
      · cases outcome with
        | live info => exact dropped_started_live _ info
        | cancelled | failed => cases announces
      · rfl
  | unsubscribe | event | shutdown | receive | close => cases announces

end Turn

namespace Scene

/-- These are the messages of one session that full queues lost in some steps. -/
def losses (format : Format) (steps : List Step) : Nat :=
  lost (effectsOf format (steps.flatMap Step.effects))

@[simp] theorem losses_nil (format : Format) : losses format [] = 0 := rfl

@[simp] theorem losses_cons (format : Format) (step : Step) (steps : List Step) :
    losses format (step :: steps) = lost (effectsOf format step.effects) + losses format steps := by
  simp [losses]

@[simp] theorem losses_append (format : Format) (first second : List Step) :
    losses format (first ++ second) = losses format first + losses format second := by
  simp [losses]

/-- Each step is of one of two kinds, and so is each message that is lost. -/
theorem losses_partition (format : Format) (kind : Step → Bool) (steps : List Step) :
    losses format steps =
      losses format (steps.filter kind) + losses format (steps.filter fun step => !kind step) := by
  induction steps with
  | nil => rfl
  | cons step rest inductionHypothesis =>
      cases chosen : kind step with
      | true =>
          rw [List.filter_cons_of_pos chosen, List.filter_cons_of_neg (by simp [chosen]),
            losses_cons, losses_cons, inductionHypothesis, Nat.add_assoc]
      | false =>
          rw [List.filter_cons_of_neg (by simp [chosen]), List.filter_cons_of_pos (by simp [chosen]),
            losses_cons, losses_cons, inductionHypothesis, Nat.add_left_comm]

/-- A step raises the count by what was lost, unless it announces a stream. -/
theorem dropped_step {scene : Scene} (sorted : scene.Sorted) (input : Input) (format : Format) :
    ((scene.step input).1.station.session format).dropped =
      (scene.station.session format).dropped +
        if input.announces then 0 else lost (effectsOf format (scene.step input).2) := by
  cases isOpen : scene.station.isOpen with
  | false =>
      obtain ⟨same, silent⟩ := step_of_closed isOpen input
      rw [same, silent]
      split <;> rfl
  | true =>
      have shows := step_shows sorted isOpen input format
      rw [shows.session, shows.effects]
      split
      case isTrue announces => exact Turn.dropped_handle _ _ announces
      case isFalse silent =>
        have counts := Turn.Counts.handle (scene.turn format) (scene.catchUp format)
          (Bool.eq_false_iff.2 silent)
        exact counts

/-- The count of a session is what full queues lost in the steps that announce nothing. -/
theorem dropped_run (serial : String) (mail : Mailboxes) (inputs : List Input) (format : Format) :
    (((opened serial mail).run inputs).1.station.session format).dropped =
      losses format
        (((opened serial mail).steps inputs).filter fun step => !step.input.announces) := by
  have next (scene : Scene) (past : List Step) (input : Input)
      (holds : scene.Coherent ∧ (scene.station.session format).dropped =
        losses format (past.filter fun step => !step.input.announces)) :
      (scene.step input).1.Coherent ∧
        ((scene.step input).1.station.session format).dropped =
          losses format ((past ++ [scene.record input]).filter
            fun step => !step.input.announces) := by
    obtain ⟨coherent, counted⟩ := holds
    refine ⟨coherent.step input, ?_⟩
    rw [dropped_step coherent.sorted, counted, List.filter_append, losses_append]
    cases announces : input.announces <;> simp [record, announces]
  have new : ((opened serial mail).station.session format).dropped = 0 := by
    cases format <;> rfl
  exact (run_induction _ next [] ⟨Coherent.opened serial mail, new⟩ inputs).2

/-- A session counts the messages that full queues lost in all steps but those that announce a
stream. So its count is the number of all lost messages exactly as long as every queue had room for
what was announced. -/
theorem dropped_eq_lost_iff (serial : String) (mail : Mailboxes) (inputs : List Input)
    (format : Format) :
    let scene := opened serial mail
    let session := (scene.run inputs).1.station.session format
    let announcing := (scene.steps inputs).filter fun step => step.input.announces
    let others := (scene.steps inputs).filter fun step => !step.input.announces
    session.dropped = losses format others ∧
      (session.dropped = lost (effectsOf format (scene.run inputs).2) ↔
        losses format announcing = 0) := by
  intro scene session announcing others
  have counted : session.dropped = losses format others := dropped_run serial mail inputs format
  have all : lost (effectsOf format (scene.run inputs).2) =
      losses format announcing + losses format others := by
    rw [run_effects]
    exact losses_partition format (fun step => step.input.announces) (scene.steps inputs)
  refine ⟨counted, ?_⟩
  rw [counted, all]
  omega

/-- A viewer that has not taken the start of the first stream loses the start of the second one, and
nothing is counted. -/
theorem dropped_restarted :
    let run := (opened "device" ⟨[("viewer", .create 1)]⟩).run
      [.subscribe "viewer" .h264, .started .h264 (.live (.h264 720 1280 "phone")),
        .event .h264 (.ended none), .subscribe "viewer" .h264,
        .started .h264 (.live (.h264 1280 720 "phone"))]
    run.1.station.h264.dropped = 0 ∧ lost (effectsOf .h264 run.2) = 1 := by
  decide +kernel

end Scene

end Screencast.Broadcast
