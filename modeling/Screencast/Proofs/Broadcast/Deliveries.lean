/-
This file follows the queues of the viewers through a run. Sessions neither open nor close them, so
a queue that refused a message accepts none later.
-/

import Screencast.Proofs.Broadcast.Stations

namespace Screencast.Broadcast

namespace Turn

/-- Only closed queues make a delivery remove viewers. -/
theorem foldl_offerCounted_of_open {turn : Turn} {viewers : List ViewerId}
    (reachable : ∀ viewer ∈ viewers, (turn.mail.get viewer).isOpen = true) (message : Message)
    (closed : List ViewerId) :
    (viewers.foldl (offerCounted message) (closed, turn)).1 = closed := by
  induction viewers generalizing turn with
  | nil => rfl
  | cons viewer rest inductionHypothesis =>
      have answer : (turn.offer viewer message).1 ≠ .closed := by
        intro refused
        have shut := (Mailbox.offer_eq_closed_iff (turn.mail.get viewer) message).1 refused
        rw [reachable viewer List.mem_cons_self] at shut
        cases shut
      have kept : (offerCounted message (closed, turn) viewer).1 = closed := by
        rcases offered : turn.offer viewer message with ⟨delivery, next⟩
        rw [offered] at answer
        cases delivery with
        | sent | dropped => simp only [offerCounted, offered]
        | closed => exact absurd rfl answer
      have queues (other : ViewerId) :
          ((offerCounted message (closed, turn) viewer).2.mail.get other).isOpen =
            (turn.mail.get other).isOpen := by
        obtain ⟨added, -, -, mail⟩ :=
          (Continues.offerCounted message (closed, turn) viewer).replayed
        rw [mail, Mailboxes.isOpen_replay]
      rw [List.foldl_cons]
      generalize offerCounted message (closed, turn) viewer = result at kept queues
      obtain ⟨found, next⟩ := result
      obtain rfl : found = closed := kept
      apply inductionHypothesis
      intro other member
      exact (queues other).trans (reachable other (List.mem_cons_of_mem viewer member))

theorem unsubscribe_nil (turn : Turn) : turn.unsubscribe [] = (false, turn) := by
  simp [unsubscribe]

/-- A payload that reaches no closed queue changes the counters only. -/
theorem relay_of_open {turn : Turn}
    (reachable : ∀ subscriber ∈ turn.session.subscribers,
      (turn.mail.get subscriber.viewer).isOpen = true) (payload : Octets) :
    ∃ (offered : Turn) (lost : Nat), turn.relay payload = (false, offered) ∧
      offered.session = { turn.session with
        relayed := turn.session.relayed + 1, dropped := turn.session.dropped + lost } ∧
      ∀ format, callsOf format offered.effects = callsOf format turn.effects := by
  let counted : Turn :=
    { turn with session := { turn.session with relayed := turn.session.relayed + 1 } }
  let viewers := (counted.session.subscribers.filter Subscriber.announced).map Subscriber.viewer
  have everybody : ∀ viewer ∈ viewers, (counted.mail.get viewer).isOpen = true := by
    intro viewer member
    obtain ⟨subscriber, announced, rfl⟩ := List.mem_map.1 member
    exact reachable subscriber (List.mem_filter.1 announced).1
  have nobody := foldl_offerCounted_of_open everybody (.frame payload) []
  obtain ⟨⟨lost, session⟩, calls, -⟩ := foldl_offerCounted counted (.frame payload) [] viewers
  refine ⟨_, lost, ?_, session, calls⟩
  rw [relay, deliver]
  simp only [viewers, counted] at nobody
  simp only [nobody, unsubscribe_nil, viewers, counted]

end Turn

namespace Effect

/-- This is what a viewer's queue answered to an offer. -/
def answer? (viewer : ViewerId) : Effect → Option Delivery
  | .call .. => none
  | .offer _ other _ delivery => if other = viewer then some delivery else none

theorem exists_of_answer? {viewer : ViewerId} {effect : Effect} {delivery : Delivery}
    (answer : effect.answer? viewer = some delivery) :
    ∃ format message, effect = .offer format viewer message delivery := by
  cases effect with
  | call => cases answer
  | offer format other message answered =>
      simp only [answer?, Option.ite_none_right_eq_some, Option.some.injEq] at answer
      obtain ⟨rfl, rfl⟩ := answer
      exact ⟨format, message, rfl⟩

end Effect

theorem Faithful.answer {mail : Mailboxes} {effects : List Effect}
    (faithful : Faithful mail effects) {effect : Effect} (member : effect ∈ effects)
    {viewer : ViewerId} {delivery : Delivery} (answer : effect.answer? viewer = some delivery) :
    delivery = .closed ↔ (mail.get viewer).isOpen = false := by
  obtain ⟨format, message, rfl⟩ := Effect.exists_of_answer? answer
  exact faithful.closed_iff member

namespace Scene

/-- The effects of a step say what happened to the queues. -/
structure Replays (scene : Scene) (result : Scene × List Effect) : Prop where
  faithful : Faithful scene.mail result.2
  mail : result.1.mail = scene.mail.replay result.2

namespace Replays

theorem nothing {scene : Scene} {result : Scene × List Effect} (mail : result.1.mail = scene.mail)
    (quiet : result.2 = []) : scene.Replays result := by
  constructor
  · rw [quiet]
    trivial
  · rw [quiet, mail]
    rfl

theorem trans {scene middle last : Scene} {first second : List Effect}
    (former : scene.Replays (middle, first)) (latter : middle.Replays (last, second)) :
    scene.Replays (last, first ++ second) := by
  obtain ⟨faithful, mail⟩ := former
  obtain ⟨answers, queues⟩ := latter
  dsimp only at faithful mail answers queues
  rw [mail] at answers queues
  exact ⟨(faithful_append _ _ _).2 ⟨faithful, answers⟩,
    queues.trans (Mailboxes.replay_append _ _ _).symm⟩

/-- A turn of one session is all that happens to the queues. -/
theorem ofTurn {scene : Scene} {result : Scene × List Effect} {format : Format} {last : Turn}
    (continues : Turn.Continues (scene.turn format) last) (mail : result.1.mail = last.mail)
    (effects : result.2 = last.effects) : scene.Replays result := by
  obtain ⟨added, all, faithful, queues⟩ := continues.replayed
  obtain rfl : last.effects = added := all
  constructor
  · rw [effects]
    exact faithful
  · rw [mail, effects]
    exact queues

theorem leave (scene : Scene) (format : Format) (viewer : ViewerId) :
    scene.Replays (scene.leave format viewer) := by
  refine ofTurn (Turn.Continues.unsubscribe (scene.turn format) [viewer]) ?_ rfl
  unfold Scene.leave
  dsimp only
  split <;> rfl

theorem relay (scene : Scene) (format : Format) (payload : Octets) :
    scene.Replays (scene.relay format payload) := by
  refine ofTurn (Turn.Continues.relay (scene.turn format) payload) ?_
    (relay_effects scene format payload)
  cases format with
  | h264 =>
      unfold Scene.relay
      dsimp only
      split <;> rfl
  | jpeg =>
      unfold Scene.relay
      dsimp only
      split <;> rfl

/-- Whatever a station does, its effects say what happened to the queues. -/
theorem handle (scene : Scene) (input : Input)
    (handled : ∀ viewer, (∀ count, input ≠ .receive viewer count) ∧ input ≠ .close viewer) :
    scene.Replays (scene.handle input) := by
  cases input with
  | subscribe viewer format =>
      exact (leave scene format.other viewer).trans
        (ofTurn (Turn.Continues.subscribe _ viewer _) rfl rfl)
  | unsubscribe viewer => exact (leave scene .h264 viewer).trans (leave _ .jpeg viewer)
  | started format outcome =>
      cases place : (scene.station.session format).sourceHome with
      | true =>
          rw [handle_started_home place]
          exact nothing rfl rfl
      | false =>
          rw [handle_started_away place]
          exact ofTurn (Turn.Continues.started _ outcome) rfl rfl
  | event format event =>
      cases heard : (scene.station.session format).listening with
      | false =>
          rw [handle_event_unheard heard]
          exact nothing rfl rfl
      | true =>
          cases event with
          | data payload =>
              rw [handle_data heard]
              exact relay scene format payload
          | ended reason =>
              rw [handle_ended heard]
              refine ofTurn (Turn.Continues.ended (scene.turn format)) ?_ rfl
              cases format <;> rfl
  | shutdown h264 jpeg =>
      exact (ofTurn (Turn.Continues.shutdown _ h264) rfl rfl).trans
        (ofTurn (Turn.Continues.shutdown _ jpeg) rfl rfl)
  | receive viewer count => exact absurd rfl ((handled viewer).1 count)
  | close viewer => exact absurd rfl (handled viewer).2

end Replays

/-- A queue is closed by its viewer and by nothing else. -/
theorem isOpen_step (scene : Scene) (input : Input) (viewer : ViewerId) :
    ((scene.step input).1.mail.get viewer).isOpen =
      ((scene.mail.get viewer).isOpen && decide (input ≠ .close viewer)) := by
  have set (other : ViewerId) (mailbox : Mailbox) (distinct : viewer ≠ other) :
      (scene.mail.set other mailbox).get viewer = scene.mail.get viewer :=
    Mailboxes.get_set_of_ne scene.mail mailbox distinct
  have handled (result : Scene × List Effect) (replays : scene.Replays result)
      (stays : input ≠ .close viewer) : (result.1.mail.get viewer).isOpen =
        ((scene.mail.get viewer).isOpen && decide (input ≠ .close viewer)) := by
    rw [replays.mail, Mailboxes.isOpen_replay, decide_eq_true stays, Bool.and_true]
  cases input with
  | receive other count =>
      by_cases same : viewer = other
      · subst same
        simp [step, handle, Mailbox.take]
      · simp [step, handle, set other _ same]
  | close other =>
      by_cases same : viewer = other
      · subst same
        simp [step, handle, Mailbox.close]
      · simp [step, handle, set other _ same, Ne.symm same]
  | subscribe | unsubscribe | started | event | shutdown =>
      cases isOpen : scene.station.isOpen with
      | true =>
          rw [step_of_open isOpen]
          exact handled _ (.handle scene _ (by simp)) (by simp)
      | false =>
          refine handled _ (.nothing ?_ (step_of_closed isOpen _).2) (by simp)
          simp [step, isOpen]

/-- In one step, a queue refuses all offers or none, as it is closed or open before. -/
theorem faithful_step (scene : Scene) (input : Input) :
    Faithful scene.mail (scene.step input).2 := by
  cases input with
  | receive | close => trivial
  | subscribe | unsubscribe | started | event | shutdown =>
      cases isOpen : scene.station.isOpen with
      | true =>
          rw [step_of_open isOpen]
          exact (Replays.handle scene _ (by simp)).faithful
      | false =>
          rw [(step_of_closed isOpen _).2]
          trivial

/-- The queues that refused an offer so far are closed, and none of them accepted one later. -/
structure Refusing (scene : Scene) (effects : List Effect) : Prop where
  closed : ∀ effect ∈ effects, ∀ viewer, effect.answer? viewer = some .closed →
    (scene.mail.get viewer).isOpen = false
  ordered : effects.Pairwise fun earlier later => ∀ viewer,
    earlier.answer? viewer = some .closed → later.answer? viewer ≠ some .sent

theorem Refusing.step {scene : Scene} {effects : List Effect} (refusing : scene.Refusing effects)
    (input : Input) : (scene.step input).1.Refusing (effects ++ (scene.step input).2) := by
  have faithful := faithful_step scene input
  have shut : ∀ effect ∈ effects ++ (scene.step input).2, ∀ viewer,
      effect.answer? viewer = some .closed → (scene.mail.get viewer).isOpen = false := by
    intro effect member viewer refused
    rcases List.mem_append.1 member with earlier | new
    · exact refusing.closed effect earlier viewer refused
    · exact (faithful.answer new refused).1 rfl
  have reachable : ∀ effect ∈ (scene.step input).2, ∀ viewer,
      effect.answer? viewer = some .sent → (scene.mail.get viewer).isOpen ≠ false := by
    intro effect member viewer accepted closed
    cases (faithful.answer member accepted).2 closed
  constructor
  · intro effect member viewer refused
    rw [isOpen_step, shut effect member viewer refused, Bool.false_and]
  · refine List.pairwise_append.2 ⟨refusing.ordered, List.pairwise_of_forall_mem_list ?_, ?_⟩
    · intro earlier member later new viewer refused accepted
      exact reachable later new viewer accepted
        (shut earlier (List.mem_append_right _ member) viewer refused)
    · intro earlier member later new viewer refused accepted
      exact reachable later new viewer accepted
        (shut earlier (List.mem_append_left _ member) viewer refused)

/-- In every run, a queue that refused an offer accepts none later. -/
theorem Refusing.run (scene : Scene) (inputs : List Input) :
    (scene.run inputs).1.Refusing (scene.run inputs).2 := by
  rw [run_effects]
  refine run_induction (fun scene past => scene.Refusing (past.flatMap Step.effects))
    ?_ [] ?_ inputs
  · intro scene past input refusing
    rw [List.flatMap_append, List.flatMap_singleton]
    exact refusing.step input
  · exact ⟨by simp, List.Pairwise.nil⟩

end Scene

end Screencast.Broadcast
