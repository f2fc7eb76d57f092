/-
This file says who is told that a start failed: the viewers of images that wait for it, each of them
once. Nobody is told of a failure at any other time.
-/

import Screencast.Proofs.Broadcast.Blocks
import Screencast.Proofs.Broadcast.Isolation

namespace Screencast.Broadcast

namespace Effect

/-- A viewer is told of a failure. -/
def isFailure : Effect → Bool
  | .offer _ _ (.failure _) _ => true
  | _ => false

theorem exists_of_isFailure {effect : Effect} (failure : effect.isFailure = true) :
    ∃ viewer text, .failure text ∈ messagesTo effect.format viewer [effect] := by
  cases effect with
  | call => cases failure
  | offer format viewer message =>
      cases message with
      | start | frame => cases failure
      | failure text => exact ⟨viewer, text, by simp [Effect.format]⟩

end Effect

/-- These are the failure reports among some effects. -/
def failures (effects : List Effect) : List Effect := effects.filter Effect.isFailure

/-- This offers a message to a viewer and says what its queue answers. -/
def Mailboxes.answered (mail : Mailboxes) (format : Format) (message : Message)
    (viewer : ViewerId) : Effect :=
  .offer format viewer message ((mail.get viewer).offer message).1

/-- Each of these offers reports the failure. -/
theorem failures_answered (mail : Mailboxes) (format : Format) (text : String)
    (viewers : List ViewerId) :
    failures (viewers.map (mail.answered format (.failure text))) =
      viewers.map (mail.answered format (.failure text)) := by
  apply List.filter_eq_self.2
  intro effect member
  obtain ⟨viewer, -, rfl⟩ := List.mem_map.1 member
  rfl

theorem Mailbox.offer_of_room {mailbox : Mailbox} (isOpen : mailbox.isOpen = true)
    (room : mailbox.messages.length < mailbox.capacity) (message : Message) :
    (mailbox.offer message).2 = { mailbox with messages := mailbox.messages ++ [message] } := by
  simp [offer, isOpen, room]

/-- A queue without room stays as it is, and so does a closed one. -/
theorem Mailbox.offer_of_full {mailbox : Mailbox}
    (full : ¬ (mailbox.isOpen = true ∧ mailbox.messages.length < mailbox.capacity))
    (message : Message) : (mailbox.offer message).2 = mailbox := by
  cases isOpen : mailbox.isOpen with
  | false => simp [offer, isOpen]
  | true =>
      have room : ¬ mailbox.messages.length < mailbox.capacity := fun room => full ⟨isOpen, room⟩
      simp [offer, isOpen, room]

namespace Turn

/-- This is what one offer of a message to some viewers does, when some were found closed before. -/
structure Reached (turn : Turn) (message : Message) (viewers closed : List ViewerId)
    (result : List ViewerId × Turn) : Prop where
  closed : result.1 = closed ++ viewers.filter fun viewer => !(turn.mail.get viewer).isOpen
  effects : result.2.effects =
    turn.effects ++ viewers.map (turn.mail.answered turn.session.format message)
  queues : ∀ viewer, result.2.mail.get viewer =
    if viewer ∈ viewers then ((turn.mail.get viewer).offer message).2 else turn.mail.get viewer

theorem offerCounted_reached (turn : Turn) (message : Message) (viewer : ViewerId)
    (closed : List ViewerId) :
    Reached turn message [viewer] closed (offerCounted message (closed, turn) viewer) := by
  have refused := Mailbox.offer_eq_closed_iff (turn.mail.get viewer) message
  have queues (other : ViewerId) : (turn.offer viewer message).2.mail.get other =
      if other ∈ [viewer] then ((turn.mail.get other).offer message).2
      else turn.mail.get other := by
    change (turn.mail.set viewer ((turn.mail.get viewer).offer message).2).get other = _
    by_cases same : other = viewer
    · simp [same]
    · simp [same, Mailboxes.get_set_of_ne turn.mail _ same]
  have effects := offer_effects turn viewer message
  change _ = turn.effects ++ [turn.mail.answered turn.session.format message viewer] at effects
  change (turn.offer viewer message).1 = .closed ↔ _ at refused
  rcases found : turn.offer viewer message with ⟨delivery, next⟩
  rw [found] at refused queues effects
  simp only [offerCounted, found]
  cases delivery with
  | sent | dropped =>
      have reachable : (turn.mail.get viewer).isOpen = true := by simpa using refused
      exact ⟨by simp [reachable], effects, queues⟩
  | closed =>
      have shut : (turn.mail.get viewer).isOpen = false := by simpa using refused
      exact ⟨by simp [shut], effects, queues⟩

/-- Each viewer's queue answers for itself, so it does not matter who is offered the message
first. -/
theorem Reached.trans {turn : Turn} {message : Message} {first rest closed : List ViewerId}
    {middle last : List ViewerId × Turn} (former : Reached turn message first closed middle)
    (format : middle.2.session.format = turn.session.format)
    (others : ∀ viewer ∈ rest, viewer ∉ first)
    (latter : Reached middle.2 message rest middle.1 last) :
    Reached turn message (first ++ rest) closed last where
  closed := by
    have same : rest.filter (fun viewer => !(middle.2.mail.get viewer).isOpen) =
        rest.filter fun viewer => !(turn.mail.get viewer).isOpen := by
      apply List.filter_congr
      intro viewer member
      rw [former.queues, if_neg (others viewer member)]
    rw [latter.closed, same, former.closed, List.append_assoc, ← List.filter_append]
  effects := by
    have same : rest.map (middle.2.mail.answered middle.2.session.format message) =
        rest.map (turn.mail.answered turn.session.format message) := by
      apply List.map_congr_left
      intro viewer member
      rw [Mailboxes.answered, Mailboxes.answered, format, former.queues,
        if_neg (others viewer member)]
    rw [latter.effects, same, former.effects, List.append_assoc, ← List.map_append]
  queues viewer := by
    rw [latter.queues, former.queues]
    by_cases later : viewer ∈ rest
    · simp [later, others viewer later]
    · simp [later]

theorem foldl_offerCounted_reached (turn : Turn) (message : Message) {viewers : List ViewerId}
    (distinct : viewers.Nodup) (closed : List ViewerId) :
    Reached turn message viewers closed
      (viewers.foldl (offerCounted message) (closed, turn)) := by
  induction viewers generalizing turn closed with
  | nil => exact ⟨by simp, by simp, by simp⟩
  | cons first rest inductionHypothesis =>
      obtain ⟨stranger, others⟩ := List.nodup_cons.1 distinct
      have apart : ∀ viewer ∈ rest, viewer ∉ [first] := by
        rintro viewer member here
        rw [List.mem_singleton.1 here] at member
        exact stranger member
      exact (offerCounted_reached turn message first closed).trans
        (Continues.offerCounted message (closed, turn) first).format apart
        (inductionHypothesis _ others _)

/-- The viewers of images are told that their start failed. Those whose queue is closed leave. -/
theorem started_failed_reached {turn : Turn} (reports : turn.session.reportsFailure = true)
    (distinct : (turn.session.subscribers.map Subscriber.viewer).Nodup) (fault : Fault) :
    let viewers := turn.session.subscribers.map Subscriber.viewer
    let message := Message.failure fault.message
    let last := turn.started (.failed fault)
    last.effects = turn.effects ++ .call turn.session.format .stop ::
        viewers.map (turn.mail.answered turn.session.format message) ∧
      (∀ viewer, last.mail.get viewer =
        if viewer ∈ viewers then ((turn.mail.get viewer).offer message).2
        else turn.mail.get viewer) ∧
      last.session.subscribers = turn.session.subscribers.filter fun subscriber =>
        (turn.mail.get subscriber.viewer).isOpen := by
  intro viewers message last
  let stopped : Turn := { turn with
    session := { turn.session with sourceHome := true, token := none, state := .idle }
    effects := turn.effects ++ [.call turn.session.format .stop] }
  let offered := viewers.foldl (offerCounted message) ([], stopped)
  have reached : Reached stopped message viewers [] offered :=
    foldl_offerCounted_reached stopped message distinct []
  have told : last = (offered.2.unsubscribe offered.1).2 := by
    change (if turn.session.reportsFailure then _ else _) = _
    rw [if_pos reports]
    rfl
  obtain ⟨⟨lost, session⟩, -, -⟩ := foldl_offerCounted stopped message [] viewers
  have idle : offered.2.session.state = .idle := by rw [session]
  rw [told, unsubscribe_idle idle]
  refine ⟨?_, reached.queues, ?_⟩
  · rw [reached.effects, List.append_assoc]
    rfl
  · change offered.2.session.subscribers.filter _ = _
    rw [session, reached.closed]
    apply List.filter_congr
    intro subscriber member
    have here : subscriber.viewer ∈ viewers := List.mem_map_of_mem member
    simp [here, stopped]

/-- A session tells a viewer of a failure only when the start of its images failed. -/
theorem failed_of_told {turn : Turn} (coherent : turn.session.Coherent)
    (fresh : turn.effects = []) {catchUp : List Octets} {input : Input} {viewer : ViewerId}
    {text : String} (told : .failure text ∈
      messagesTo turn.session.format viewer (turn.handle catchUp input).effects) :
    turn.session.format = .jpeg ∧ turn.session.state = .starting ∧
      ∃ fault, input = .started .jpeg (.failed fault) := by
  have silent : messagesTo turn.session.format viewer turn.effects = [] := by rw [fresh]; rfl
  cases input with
  | subscribe other format =>
      rw [handle] at told
      split at told
      · have joined := coherent.subscribe_joined other catchUp
        generalize turn.subscribe other catchUp = last at joined told
        cases joined with
        | starts => simp [silent] at told
        | waits | stays => simp [silent] at told
        | told _ _ info =>
            have own : ({ turn with session := turn.session.join other } : Turn).session.format =
              turn.session.format := rfl
            rw [messagesTo_announce own, silent] at told
            by_cases same : other = viewer <;> simp [same] at told
      · simp [messagesTo_unsubscribe, silent] at told
  | unsubscribe other => simp [handle, messagesTo_unsubscribe, silent] at told
  | started format outcome =>
      rw [handle_started coherent] at told
      split at told
      case isTrue own =>
        rw [messagesTo_started coherent, silent, List.nil_append] at told
        split at told
        · cases outcome with
          | live | cancelled => simp [Vitals.settlement] at told
          | failed fault =>
              by_cases images : turn.session.format = .jpeg
              · exact ⟨images, own.2, fault, by rw [own.1, images]⟩
              · simp [Vitals.settlement, images] at told
        · cases told
      case isFalse => simp [silent] at told
  | event format event =>
      cases event with
      | data payload =>
          rw [handle_data coherent] at told
          split at told
          case isTrue own =>
            rw [messagesTo_relay coherent own.2, silent] at told
            split at told <;> simp at told
          case isFalse => simp [silent] at told
      | ended reason =>
          rw [handle_ended coherent] at told
          split at told
          case isTrue own =>
            rw [ended_of_home (coherent.home_of_ne (by simp [own.2]))] at told
            simp [silent] at told
          case isFalse => simp [silent] at told
  | shutdown h264 jpeg => simp [handle, messagesTo_shutdown, silent] at told
  | receive | close => simp [handle, silent] at told

end Turn

namespace Step

/-- This is why the pending start of the images failed, if it did in this step. A start that was
cancelled has not failed. -/
def failedStart? (step : Step) : Option Fault :=
  match step.input with
  | .started .jpeg (.failed fault) =>
      if step.before.station.jpeg.state = .starting then some fault else none
  | _ => none

/-- A step reports a fault to the viewers of images, to each of them once. A queue with room keeps
the report, and the viewers whose queue is closed leave. Nothing else happens to the queues and to
the recorder's stream. -/
structure Reports (step : Step) (fault : Fault) : Prop where
  distinct : (step.before.station.jpeg.subscribers.map Subscriber.viewer).Nodup
  offers : failures step.effects = (step.before.station.jpeg.subscribers.map Subscriber.viewer).map
    (step.before.mail.answered .jpeg (.failure fault.message))
  kept : ∀ subscriber ∈ step.before.station.jpeg.subscribers,
    let queue := step.before.mail.get subscriber.viewer
    queue.isOpen = true → queue.messages.length < queue.capacity →
      step.after.mail.get subscriber.viewer =
        { queue with messages := queue.messages ++ [.failure fault.message] }
  lost : ∀ subscriber ∈ step.before.station.jpeg.subscribers,
    let queue := step.before.mail.get subscriber.viewer
    ¬ (queue.isOpen = true ∧ queue.messages.length < queue.capacity) →
      step.after.mail.get subscriber.viewer = queue
  spared : ∀ viewer, step.before.station.jpeg.contains viewer = false →
    step.after.mail.get viewer = step.before.mail.get viewer
  remaining : step.after.station.jpeg.subscribers =
    step.before.station.jpeg.subscribers.filter fun subscriber =>
      (step.before.mail.get subscriber.viewer).isOpen
  recorder : step.after.station.h264 = step.before.station.h264
  store : step.after.station.store = step.before.station.store

end Step

namespace Scene

theorem failedStart?_eq_some_iff {scene : Scene} {input : Input} {fault : Fault} :
    (scene.record input).failedStart? = some fault ↔
      input = .started .jpeg (.failed fault) ∧ scene.station.jpeg.state = .starting := by
  unfold Step.failedStart?
  split
  case h_1 found =>
    have same : input = _ := found
    subst same
    by_cases starting : scene.station.jpeg.state = .starting <;> simp [record, starting]
  case h_2 other =>
    simp only [reduceCtorEq, false_iff, not_and]
    intro same
    exact absurd same (other fault)

/-- The start of the images that failed is reported. -/
theorem reports_of_failedStart {scene : Scene} (coherent : scene.Coherent) {fault : Fault}
    (starting : scene.station.jpeg.state = .starting) :
    (scene.record (.started .jpeg (.failed fault))).Reports fault := by
  have session := coherent.sessions .jpeg
  have isOpen : scene.station.isOpen = true := by
    by_contra closed
    have idle := coherent.closed (by simpa using closed) .jpeg
    exact absurd (idle.symm.trans starting) (by decide)
  have step : scene.step (.started .jpeg (.failed fault)) =
      (scene.apply .jpeg ((scene.turn .jpeg).started (.failed fault)),
        ((scene.turn .jpeg).started (.failed fault)).effects) := by
    rw [step_of_open isOpen, handle_started_away (session.away.2 starting)]
    rfl
  have reports : (scene.turn .jpeg).session.reportsFailure = true :=
    decide_eq_true (coherent.sorted .jpeg)
  obtain ⟨effects, queues, remaining⟩ :=
    Turn.started_failed_reached reports session.distinct fault
  have here (subscriber : Subscriber) (member : subscriber ∈ scene.station.jpeg.subscribers) :
      ((scene.turn .jpeg).started (.failed fault)).mail.get subscriber.viewer =
        ((scene.mail.get subscriber.viewer).offer (.failure fault.message)).2 :=
    (queues _).trans (if_pos (List.mem_map_of_mem member))
  have after : (scene.record (.started .jpeg (.failed fault))).after =
      scene.apply .jpeg ((scene.turn .jpeg).started (.failed fault)) := congrArg Prod.fst step
  constructor
  · exact session.distinct
  · have told : (scene.record (.started .jpeg (.failed fault))).effects = _ :=
      (congrArg Prod.snd step).trans effects
    have own : (scene.turn .jpeg).session.format = .jpeg := coherent.sorted .jpeg
    rw [told, own]
    exact failures_answered scene.mail .jpeg fault.message _
  · intro subscriber member queue isOpen room
    rw [after]
    exact (here subscriber member).trans (Mailbox.offer_of_room isOpen room _)
  · intro subscriber member queue full
    rw [after]
    exact (here subscriber member).trans (Mailbox.offer_of_full full _)
  · intro viewer stranger
    rw [after]
    have absent : viewer ∉ scene.station.jpeg.subscribers.map Subscriber.viewer := by
      rw [← Session.contains_iff]
      exact Bool.eq_false_iff.1 stranger
    exact (queues viewer).trans (if_neg absent)
  · rw [after]
    exact remaining
  · rw [after]
    rfl
  · rw [after]
    rfl

/-- Whoever is told of a failure is told by the step in which the start of the images failed. -/
theorem exists_failed_of_failures {scene : Scene} (coherent : scene.Coherent) {input : Input}
    {effect : Effect} (member : effect ∈ failures (scene.step input).2) :
    ∃ fault, (scene.record input).failedStart? = some fault := by
  obtain ⟨done, failure⟩ := List.mem_filter.1 member
  obtain ⟨viewer, text, told⟩ := Effect.exists_of_isFailure failure
  cases isOpen : scene.station.isOpen with
  | false =>
      rw [(step_of_closed isOpen input).2] at done
      cases done
  | true =>
      have shows := step_shows coherent.sorted isOpen input effect.format
      have own : (scene.turn effect.format).session.format = effect.format :=
        coherent.sorted effect.format
      have heard : .failure text ∈ messagesTo (scene.turn effect.format).session.format viewer
          ((scene.turn effect.format).handle (scene.catchUp effect.format) input).effects := by
        rw [own, ← shows.effects, messagesTo_effectsOf]
        exact List.Sublist.mem told (List.Sublist.filterMap _ (List.singleton_sublist.2 done))
      obtain ⟨images, starting, fault, failed⟩ :=
        Turn.failed_of_told (coherent.sessions effect.format) rfl heard
      rw [own] at images
      rw [images] at starting
      exact ⟨fault, failedStart?_eq_some_iff.2 ⟨failed, starting⟩⟩

/-- In every step of a run that makes the start of the images fail, this is reported to their
viewers at that moment, and no other step tells anybody of a failure. A start that fails during the
shutdown has no viewers left. -/
theorem failures_reported (serial : String) (mail : Mailboxes) (inputs : List Input) :
    ∀ step ∈ (opened serial mail).steps inputs,
      (∀ fault, step.failedStart? = some fault → step.Reports fault) ∧
        (step.failedStart? = none → failures step.effects = []) := by
  intro step member
  obtain ⟨coherent, record⟩ := record_of_mem_steps (Coherent.opened serial mail) member
  generalize step.before = scene, step.input = input at coherent record
  subst record
  constructor
  · intro fault failed
    obtain ⟨rfl, starting⟩ := failedStart?_eq_some_iff.1 failed
    exact reports_of_failedStart coherent starting
  · intro settled
    apply List.eq_nil_iff_forall_not_mem.2
    intro effect told
    obtain ⟨fault, failed⟩ := exists_failed_of_failures coherent told
    exact absurd (settled.symm.trans failed) (by simp)

/-- A queue with room, a full one and a closed one are told that no grabber came up. -/
theorem failures_reported_grabbers :
    let scene := opened "device" ⟨[("roomy", .create 8),
      ("full", { capacity := 1, messages := [.failure "earlier"] }), ("closed", .create 8)]⟩
    let before := (scene.run [.subscribe "roomy" .jpeg, .subscribe "full" .jpeg,
      .subscribe "closed" .jpeg, .close "closed"]).1
    let step := before.record (.started .jpeg (.failed (.grabber (.exhausted "minicap"))))
    let message := Message.failure "Grabber error: All grabbers failed (minicap)"
    failures step.effects = [.offer .jpeg "roomy" message .sent,
        .offer .jpeg "full" message .dropped, .offer .jpeg "closed" message .closed] ∧
      step.after.station.jpeg.subscribers = [{ viewer := "roomy" }, { viewer := "full" }] := by
  intro scene before step message
  have member : step ∈ scene.steps [.subscribe "roomy" .jpeg, .subscribe "full" .jpeg,
      .subscribe "closed" .jpeg, .close "closed", step.input] := by
    decide +kernel
  have failed : step.failedStart? = some (.grabber (.exhausted "minicap")) := by decide +kernel
  have reports := (failures_reported "device" scene.mail _ step member).1 _ failed
  exact ⟨reports.offers.trans (by decide +kernel), reports.remaining.trans (by decide +kernel)⟩

end Scene

end Screencast.Broadcast
