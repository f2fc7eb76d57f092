/-
This file follows the messages into the queue of a viewer. What arrives there of a stream consists
of blocks, one for each stretch of a run in which the viewer watches.
-/

import Screencast.Proofs.Broadcast.Blocks
import Screencast.Proofs.Broadcast.Isolation

namespace Screencast.Broadcast

/-- A command, an outcome or an event is about one format, and no other input is. -/
def Input.format? : Input → Option Format
  | .subscribe _ format | .started format _ | .event format _ => some format
  | .unsubscribe _ | .shutdown .. | .receive .. | .close _ => none

namespace Step

/-- A viewer takes the oldest messages out of its queue, or all of them when it closes the queue. -/
def kept (viewer : ViewerId) (step : Step) : List Message :=
  let messages := (step.before.mail.get viewer).messages
  match step.input with
  | .receive other count => if other = viewer then messages.drop count else messages
  | .close other => if other = viewer then [] else messages
  | _ => messages

/-- These messages are new in the queue of a viewer. -/
def arrived (viewer : ViewerId) (step : Step) : List Message :=
  (step.after.mail.get viewer).messages.drop (step.kept viewer).length

end Step

/-- The inputs of a format bring these messages into the queue of a viewer, the oldest first. -/
def arrivals (format : Format) (viewer : ViewerId) (steps : List Step) : List Message :=
  steps.flatMap fun step => if step.input.format? = some format then step.arrived viewer else []

/-- These messages were accepted by the queue that they were offered to. -/
def accepted (answers : List (Message × Delivery)) : List Message :=
  (answers.filter fun answer => answer.2 = .sent).map Prod.fst

namespace Mailbox

theorem messages_offer (mailbox : Mailbox) (message : Message) :
    (mailbox.offer message).2.messages =
      mailbox.messages ++ if (mailbox.offer message).1 = .sent then [message] else [] := by
  unfold offer
  split
  · simp
  · split <;> simp

/-- A queue keeps what it accepts behind its earlier messages. -/
theorem messages_offerAll (mailbox : Mailbox) (messages : List Message) :
    (mailbox.offerAll messages).2.messages =
      mailbox.messages ++ accepted (mailbox.offerAll messages).1 := by
  induction messages generalizing mailbox with
  | nil => exact (List.append_nil _).symm
  | cons message rest inductionHypothesis =>
      rw [offerAll]
      dsimp only
      rw [inductionHypothesis, messages_offer, List.append_assoc, accepted, accepted]
      by_cases sent : (mailbox.offer message).1 = .sent <;> simp [sent]

end Mailbox

section KeepingUp

variable (format : Format) (viewer : ViewerId)

def Effect.delivery? : Effect → Option Delivery
  | .call .. => none
  | .offer own other _ delivery => if own = format ∧ other = viewer then some delivery else none

/-- A viewer keeps up when every offer of a format to it finds room in a queue that is open. -/
def KeepsUp (effects : List Effect) : Prop :=
  ∀ delivery ∈ effects.filterMap (Effect.delivery? format viewer), delivery = .sent

instance (effects : List Effect) : Decidable (KeepsUp format viewer effects) :=
  inferInstanceAs (Decidable (∀ delivery ∈ _, delivery = _))

theorem keepsUp_append (first second : List Effect) :
    KeepsUp format viewer (first ++ second) ↔
      KeepsUp format viewer first ∧ KeepsUp format viewer second := by
  simp only [KeepsUp, List.filterMap_append, List.forall_mem_append]

variable {format viewer}

/-- The queue of a viewer that keeps up accepts everything that one format offers. -/
theorem KeepsUp.accepted_answersTo {effects : List Effect}
    (keepsUp : KeepsUp format viewer effects)
    (silent : messagesTo format.other viewer effects = []) :
    accepted (answersTo viewer effects) = messagesTo format viewer effects := by
  rw [← fst_answersTo silent, accepted]
  congr 1
  refine List.filter_eq_self.2 fun answer member => decide_eq_true ?_
  obtain ⟨effect, done, answered⟩ := List.mem_filterMap.1 member
  have elsewhere := List.filterMap_eq_nil_iff.1 silent effect done
  cases effect with
  | call => cases answered
  | offer own other message delivery =>
      by_cases same : other = viewer
      · rw [Effect.answered?, if_pos same] at answered
        cases answered
        by_cases here : own = format
        · exact keepsUp delivery (List.mem_filterMap.2 ⟨_, done, if_pos ⟨here, same⟩⟩)
        · rw [Effect.message?, if_pos ⟨Format.eq_other_of_ne here, same⟩] at elsewhere
          cases elsewhere
      · rw [Effect.answered?, if_neg same] at answered
        cases answered

end KeepingUp

/-- A session tells nobody anything unless the input is about its format. -/
theorem Turn.messagesTo_handle_of_ne {turn : Turn} {input : Input}
    (elsewhere : input.format? ≠ some turn.session.format) (catchUp : List Octets)
    (viewer : ViewerId) :
    messagesTo turn.session.format viewer (turn.handle catchUp input).effects =
      messagesTo turn.session.format viewer turn.effects := by
  have other {format : Format} (same : input.format? = some format) :
      format ≠ turn.session.format := fun own => elsewhere (own ▸ same)
  cases input with
  | subscribe joining format =>
      rw [handle, if_neg (other rfl)]
      exact messagesTo_unsubscribe turn [joining] _ viewer
  | unsubscribe leaving => exact messagesTo_unsubscribe turn [leaving] _ viewer
  | started format outcome => rw [handle, if_neg fun own => other rfl own.1]
  | event format event =>
      cases event with
      | data payload | ended reason => rw [handle, if_neg fun own => other rfl own.1]
  | shutdown h264 jpeg => exact messagesTo_shutdown turn _ viewer
  | receive | close => rfl

namespace Scene

variable {scene : Scene} {format : Format} {viewer : ViewerId}

theorem messagesTo_step_of_ne (coherent : scene.Coherent) {input : Input}
    (elsewhere : input.format? ≠ some format) :
    messagesTo format viewer (scene.step input).2 = [] := by
  cases isOpen : scene.station.isOpen with
  | false =>
      rw [(step_of_closed isOpen input).2]
      rfl
  | true =>
      have own : (scene.turn format).session.format = format := coherent.sorted format
      have shows := step_shows coherent.sorted isOpen input format
      have elsewhere : input.format? ≠ some (scene.turn format).session.format := by rwa [own]
      have silent := Turn.messagesTo_handle_of_ne elsewhere (scene.catchUp format) viewer
      rw [own, ← shows.effects, messagesTo_effectsOf] at silent
      exact silent

/-- Behind what a viewer keeps, its queue holds what it accepted in this step. -/
theorem messages_record (scene : Scene) (viewer : ViewerId) (input : Input) :
    ((scene.record input).after.mail.get viewer).messages =
      (scene.record input).kept viewer ++ accepted (answersTo viewer (scene.step input).2) := by
  have queue := queue_step scene viewer input
  have later := Mailbox.messages_offerAll ((scene.mail.get viewer).managed viewer input)
    ((answersTo viewer (scene.step input).2).map Prod.fst)
  have kept : (scene.record input).kept viewer =
      ((scene.mail.get viewer).managed viewer input).messages := by
    cases input with
    | receive other count =>
        by_cases same : other = viewer <;>
          simp [record, Step.kept, Mailbox.managed, Mailbox.take, same]
    | close other =>
        by_cases same : other = viewer <;>
          simp [record, Step.kept, Mailbox.managed, Mailbox.close, same]
    | subscribe | unsubscribe | started | event | shutdown => rfl
  rw [queue] at later
  rw [kept]
  exact later

theorem arrived_record (scene : Scene) (viewer : ViewerId) (input : Input) :
    (scene.record input).arrived viewer = accepted (answersTo viewer (scene.step input).2) := by
  rw [Step.arrived, messages_record, List.drop_left]

/-- Nothing arrives by an input that is about no format. -/
theorem arrived_of_none (coherent : scene.Coherent) {input : Input} (none : input.format? = none) :
    (scene.record input).arrived viewer = [] := by
  have silent (format : Format) : messagesTo format viewer (scene.step input).2 = [] :=
    messagesTo_step_of_ne coherent (by simp [none])
  have nothing := fst_answersTo (silent Format.h264.other)
  rw [silent, List.map_eq_nil_iff] at nothing
  rw [arrived_record, nothing]
  rfl

/-- What a format offers to a viewer that keeps up arrives in its queue. -/
theorem arrived_of_keepsUp (coherent : scene.Coherent) {input : Input}
    (keepsUp : KeepsUp format viewer (scene.step input).2) :
    (if input.format? = some format then (scene.record input).arrived viewer else []) =
      messagesTo format viewer (scene.step input).2 := by
  by_cases own : input.format? = some format
  · have silent : messagesTo format.other viewer (scene.step input).2 = [] :=
      messagesTo_step_of_ne coherent (by simp [own, format.other_ne.symm])
    rw [if_pos own, arrived_record, keepsUp.accepted_answersTo silent]
  · rw [if_neg own, messagesTo_step_of_ne coherent own]

theorem arrivals_steps (coherent : scene.Coherent) {inputs : List Input}
    (keepsUp : KeepsUp format viewer (scene.run inputs).2) :
    arrivals format viewer (scene.steps inputs) =
      messagesTo format viewer (scene.run inputs).2 := by
  induction inputs generalizing scene with
  | nil => rfl
  | cons input rest inductionHypothesis =>
      rw [run] at keepsUp ⊢
      obtain ⟨first, others⟩ := (keepsUp_append format viewer _ _).1 keepsUp
      have later := inductionHypothesis (coherent.step input) others
      rw [arrivals] at later
      rw [steps, arrivals, List.flatMap_cons, later, messagesTo_append]
      exact congrArg (· ++ _) (arrived_of_keepsUp coherent first)

/-- In every run, the stream messages that arrive in the queue of a viewer that keeps up are blocks,
one for each stretch in which it watches. A block is the start message of the stream, the SPS, PPS
and keyframe that the store held when a late viewer joined, and the payloads until the viewer leaves
or the stream ends. In every step, what arrives stands behind what the viewer keeps, and an input
about no format brings nothing. A viewer that was told the start of the stream may subscribe again,
and nothing happens. -/
theorem stream_blocks (serial : String) (mail : Mailboxes) (inputs : List Input)
    (format : Format) (viewer : ViewerId)
    (keepsUp : KeepsUp format viewer ((opened serial mail).run inputs).2) :
    let first := opened serial mail
    let told := blocks format viewer [] (first.steps inputs)
    (arrivals format viewer (first.steps inputs)).filter Message.isStreamed =
        told.flatMap Block.messages ∧
      (∀ block ∈ told, block.info.isSome) ∧
      (∀ step ∈ first.steps inputs,
        (step.after.mail.get viewer).messages = step.kept viewer ++ step.arrived viewer ∧
          (step.input.format? = none → step.arrived viewer = [])) ∧
      ∀ step ∈ first.steps inputs, step.input = .subscribe viewer format →
        { viewer, announced := true } ∈ (step.before.station.session format).subscribers →
          step.after = step.before ∧ step.effects = [] := by
  intro first told
  have coherent : first.Coherent := Coherent.opened serial mail
  have idle : first.isLive format = false := by cases format <;> rfl
  have described : first.Described format [] := fun live => absurd live (by simp [idle])
  have unwatched : first.watches format viewer = false := by cases format <;> rfl
  refine ⟨?_, info_of_blocks coherent described viewer inputs, fun step member => ?_,
    fun step member again known => ?_⟩
  · have streamed := streamedTo_steps coherent described viewer inputs
    rw [relayedWhile_of_unwatched unwatched, ← run_effects] at streamed
    rw [arrivals_steps coherent keepsUp]
    exact streamed
  · obtain ⟨before, recorded⟩ := record_of_mem_steps coherent member
    rw [recorded]
    exact ⟨(arrived_record _ viewer _).symm ▸ messages_record _ viewer _, arrived_of_none before⟩
  · obtain ⟨before, recorded⟩ := record_of_mem_steps coherent member
    have nothing := step_of_announced before known
    rw [recorded, again, record, nothing]
    exact ⟨rfl, rfl⟩

/-- A late viewer gets the parameter set first, and takes its first message before more arrive.
Subscribing again changes nothing. -/
theorem stream_blocks_late_viewer :
    let first := opened "device" ⟨[("early", .create 8), ("late", .create 2)]⟩
    let inputs : List Input :=
      [.subscribe "early" .h264, .started .h264 (.live (.h264 720 1280 "phone")),
        .event .h264 (.data [0, 0, 1, 0x67, 1]), .subscribe "late" .h264,
        .subscribe "late" .h264, .receive "late" 1, .event .h264 (.data [0, 0, 1, 0x65, 2]),
        .unsubscribe "late", .event .h264 (.data [0, 0, 1, 0x41, 3])]
    (arrivals .h264 "late" (first.steps inputs)).filter Message.isStreamed =
        [.start (.h264 720 1280 "phone"), .frame [0, 0, 1, 0x67, 1], .frame [0, 0, 1, 0x65, 2]] ∧
      ((first.run inputs).1.mail.get "late").messages =
        [.frame [0, 0, 1, 0x67, 1], .frame [0, 0, 1, 0x65, 2]] := by
  intro first inputs
  have streamed := stream_blocks "device" ⟨[("early", .create 8), ("late", .create 2)]⟩ inputs .h264
    "late" (by decide +kernel)
  exact ⟨streamed.1.trans (by decide +kernel), by decide +kernel⟩

end Scene

end Screencast.Broadcast
