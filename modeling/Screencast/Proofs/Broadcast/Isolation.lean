/-
This file shows that a viewer and its session are a machine of their own. Other viewers that receive
or close their queues give it no input.
-/

import Screencast.Proofs.Broadcast.Deliveries
import Screencast.Proofs.Broadcast.Subscriptions
import Screencast.Proofs.Broadcast.Telling

namespace Screencast.Broadcast

/-- The state of a session and its counters say how it is doing. -/
structure Vitals where
  state : SessionState
  starts : Nat
  stops : Nat
  relayed : Nat
  deriving DecidableEq, Repr

def Session.vitals (session : Session) : Vitals :=
  ⟨session.state, session.starts, session.stops, session.relayed⟩

@[simp] theorem Session.vitals_state (session : Session) :
    session.vitals.state = session.state := rfl

namespace Vitals

/-- A watched session goes on in one of these ways when its start is settled. -/
def settle (vitals : Vitals) : Outcome → Vitals
  | .live _ => { vitals with state := .live }
  | .cancelled => { vitals with starts := vitals.starts + 1, stops := vitals.stops + 1 }
  | .failed _ => { vitals with state := .idle }

def hear (vitals : Vitals) : SourceEvent → Vitals
  | .data _ => { vitals with relayed := vitals.relayed + 1 }
  | .ended _ => { vitals with state := .idle, stops := vitals.stops + 1 }

/-- This is what an input does to the session of a format while it keeps a viewer. -/
def next (format : Format) (vitals : Vitals) : Input → Vitals
  | .subscribe _ own =>
      if own = format ∧ vitals.state = .idle then
        { vitals with state := .starting, starts := vitals.starts + 1 }
      else vitals
  | .started own outcome =>
      if own = format ∧ vitals.state = .starting then vitals.settle outcome else vitals
  | .event own event => if own = format ∧ vitals.state = .live then vitals.hear event else vitals
  | _ => vitals

/-- This is what a session tells each viewer about the end of a start. -/
def settlement (format : Format) : Outcome → List Message
  | .live info => [.start info]
  | .cancelled => []
  | .failed fault => if format = .jpeg then [.failure fault.message] else []

/-- This is what an input makes the session of a format tell each viewer that it keeps. -/
def told (format : Format) (vitals : Vitals) : Input → List Message
  | .started own outcome =>
      if own = format ∧ vitals.state = .starting then settlement format outcome else []
  | .event own (.data payload) =>
      if own = format ∧ vitals.state = .live then [.frame payload] else []
  | _ => []

end Vitals

namespace Turn

variable {turn : Turn} {viewer : ViewerId}

theorem vitals_unsubscribe {gone : List ViewerId}
    (stays : (turn.unsubscribe gone).2.session.contains viewer = true) :
    (turn.unsubscribe gone).2.session.vitals = turn.session.vitals := by
  have watched := Session.subscribers_ne_nil stays
  have left := unsubscribe_left turn gone
  generalize turn.unsubscribe gone = result at left watched
  cases left with
  | nobody | some | idle | starting => rfl
  | live empty => exact absurd ((stopLive_subscribers _).trans empty) watched

theorem vitals_subscribe (coherent : turn.session.Coherent) (other : ViewerId)
    (catchUp : List Octets) :
    (turn.subscribe other catchUp).session.vitals =
      turn.session.vitals.next turn.session.format (.subscribe other turn.session.format) := by
  have joined := coherent.subscribe_joined other catchUp
  generalize turn.subscribe other catchUp = last at joined
  cases joined with
  | starts idle => simp [Session.vitals, Vitals.next, idle, Session.join]
  | waits starting => simp [Session.vitals, Vitals.next, starting, Session.join]
  | stays live => simp [Session.vitals, Vitals.next, live]
  | told live =>
      simp [Session.vitals, Vitals.next, live, Session.join, Session.markAnnounced]

theorem vitals_started (watched : turn.session.subscribers ≠ [])
    (pending : turn.session.state = .starting) (outcome : Outcome) :
    (turn.started outcome).session.vitals = turn.session.vitals.settle outcome := by
  cases outcome with
  | live info =>
      obtain ⟨session, -, -⟩ := started_live_watched watched info
      rw [session]
      rfl
  | cancelled =>
      rw [started_cancelled_watched watched]
      simp [Session.vitals, Vitals.settle, pending]
  | failed fault =>
      obtain ⟨lost, gone, session, -, -⟩ := started_failed turn fault
      rw [session]
      rfl

/-- The state of a session decides which inputs it takes. -/
theorem handle_started (coherent : turn.session.Coherent) (catchUp : List Octets)
    (format : Format) (outcome : Outcome) :
    turn.handle catchUp (.started format outcome) =
      if format = turn.session.format ∧ turn.session.state = .starting then turn.started outcome
      else turn := by
  simp only [handle, coherent.away]

theorem handle_data (coherent : turn.session.Coherent) (catchUp : List Octets)
    (format : Format) (payload : Octets) :
    turn.handle catchUp (.event format (.data payload)) =
      if format = turn.session.format ∧ turn.session.state = .live then (turn.relay payload).2
      else turn := by
  simp only [handle, coherent.listening]

theorem handle_ended (coherent : turn.session.Coherent) (catchUp : List Octets)
    (format : Format) (reason : Option String) :
    turn.handle catchUp (.event format (.ended reason)) =
      if format = turn.session.format ∧ turn.session.state = .live then turn.ended else turn := by
  simp only [handle, coherent.listening]

/-- A session that keeps a viewer does not depend on its other viewers. -/
theorem vitals_handle (coherent : turn.session.Coherent) (catchUp : List Octets) (input : Input)
    (here : turn.session.contains viewer = true)
    (stays : (turn.handle catchUp input).session.contains viewer = true) :
    (turn.handle catchUp input).session.vitals =
      turn.session.vitals.next turn.session.format input := by
  have watched := Session.subscribers_ne_nil here
  cases input with
  | subscribe other format =>
      rw [handle] at stays ⊢
      split at stays
      case isTrue own =>
        rw [if_pos own, own]
        exact vitals_subscribe coherent other catchUp
      case isFalse elsewhere =>
        rw [if_neg elsewhere, vitals_unsubscribe stays]
        simp [Vitals.next, elsewhere]
  | unsubscribe other => exact vitals_unsubscribe stays
  | started format outcome =>
      rw [handle_started coherent, Vitals.next, Session.vitals_state]
      by_cases own : format = turn.session.format ∧ turn.session.state = .starting
      · rw [if_pos own, if_pos own]
        exact vitals_started watched own.2 outcome
      · rw [if_neg own, if_neg own]
  | event format event =>
      rw [Vitals.next, Session.vitals_state]
      by_cases own : format = turn.session.format ∧ turn.session.state = .live
      · rw [if_pos own]
        cases event with
        | data payload =>
            rw [handle_data coherent, if_pos own] at stays ⊢
            obtain ⟨offered, lost, gone, session, -, -, relayed⟩ := relay_offered turn payload
            rw [relayed] at stays ⊢
            rw [vitals_unsubscribe stays, session]
            rfl
        | ended reason =>
            have home := coherent.home_of_ne (by simp [own.2])
            rw [handle_ended coherent, if_pos own, ended_of_home home]
            rfl
      · rw [if_neg own]
        cases event with
        | data payload => rw [handle_data coherent, if_neg own]
        | ended reason => rw [handle_ended coherent, if_neg own]
  | shutdown h264 jpeg =>
      have empty := (coherent.shutdown (turn.session.format.choose h264 jpeg)).2.2
      exact absurd empty (Session.subscribers_ne_nil stays)
  | receive | close => rfl

/-- A viewer that was known or stays a stranger is told nothing when another one joins. -/
theorem messagesTo_subscribe (coherent : turn.session.Coherent) (other : ViewerId)
    (catchUp : List Octets) (same : (turn.subscribe other catchUp).session.contains viewer =
      turn.session.contains viewer) :
    messagesTo turn.session.format viewer (turn.subscribe other catchUp).effects =
      messagesTo turn.session.format viewer turn.effects := by
  have members := contains_subscribe coherent other catchUp viewer
  have joined := coherent.subscribe_joined other catchUp
  generalize turn.subscribe other catchUp = last at joined members same
  cases joined with
  | starts => simp
  | waits | stays => rfl
  | told _ stranger info =>
      have own : ({ turn with session := turn.session.join other } : Turn).session.format =
        turn.session.format := rfl
      have distinct : other ≠ viewer := by
        rintro rfl
        rw [stranger] at same
        exact absurd (members.2 (.inr rfl)) (Bool.eq_false_iff.1 same)
      rw [messagesTo_announce own, if_neg distinct, List.append_nil]

/-- Each viewer is told once how its start was settled. -/
theorem messagesTo_started (coherent : turn.session.Coherent) (outcome : Outcome) :
    messagesTo turn.session.format viewer (turn.started outcome).effects =
      messagesTo turn.session.format viewer turn.effects ++
        if turn.session.contains viewer then Vitals.settlement turn.session.format outcome
        else [] := by
  by_cases empty : turn.session.subscribers = []
  · obtain ⟨-, -, messages⟩ := started_unwatched turn empty outcome
    simp [messages, Session.contains, empty]
  cases outcome with
  | live info =>
      obtain ⟨-, -, messages⟩ := started_live_watched empty info
      rw [messages, coherent.count_viewers]
      cases turn.session.contains viewer <;> rfl
  | cancelled =>
      rw [started_cancelled_watched empty]
      simp [messagesTo, Effect.message?, Vitals.settlement]
  | failed fault =>
      obtain ⟨lost, gone, -, -, messages⟩ := started_failed turn fault
      rw [messages, coherent.count_viewers, Session.reportsFailure, Vitals.settlement]
      cases turn.session.contains viewer <;> simp

/-- Each viewer of a running stream is told its payloads. -/
theorem messagesTo_relay (coherent : turn.session.Coherent) (live : turn.session.state = .live)
    (payload : Octets) :
    messagesTo turn.session.format viewer (turn.relay payload).2.effects =
      messagesTo turn.session.format viewer turn.effects ++
        if turn.session.contains viewer then [.frame payload] else [] := by
  obtain ⟨offered, lost, gone, -, -, messages, relayed⟩ := relay_offered turn payload
  rw [relayed, messagesTo_unsubscribe, messages, coherent.announced_of_live live,
    coherent.count_viewers]
  cases turn.session.contains viewer <;> rfl

/-- A viewer that neither comes nor goes is told what the input is about, and a stranger nothing. -/
theorem messagesTo_handle (coherent : turn.session.Coherent) (catchUp : List Octets)
    (input : Input) (same : (turn.handle catchUp input).session.contains viewer =
      turn.session.contains viewer) :
    messagesTo turn.session.format viewer (turn.handle catchUp input).effects =
      messagesTo turn.session.format viewer turn.effects ++
        if turn.session.contains viewer then
          turn.session.vitals.told turn.session.format input
        else [] := by
  have quiet {effects : List Effect}
      (silent : turn.session.vitals.told turn.session.format input = [])
      (equal : messagesTo turn.session.format viewer effects =
        messagesTo turn.session.format viewer turn.effects) :
      messagesTo turn.session.format viewer effects =
        messagesTo turn.session.format viewer turn.effects ++
          if turn.session.contains viewer then
            turn.session.vitals.told turn.session.format input
          else [] := by
    rw [silent, equal, ite_self, List.append_nil]
  cases input with
  | subscribe other format =>
      rw [handle] at same ⊢
      split at same
      case isTrue own =>
        rw [if_pos own]
        exact quiet rfl (messagesTo_subscribe coherent other catchUp same)
      case isFalse elsewhere =>
        rw [if_neg elsewhere]
        exact quiet rfl (messagesTo_unsubscribe turn [other] _ viewer)
  | unsubscribe other => exact quiet rfl (messagesTo_unsubscribe turn [other] _ viewer)
  | started format outcome =>
      rw [handle_started coherent]
      by_cases own : format = turn.session.format ∧ turn.session.state = .starting
      · rw [if_pos own, Vitals.told, Session.vitals_state, if_pos own]
        exact messagesTo_started coherent outcome
      · rw [if_neg own]
        exact quiet (if_neg own) rfl
  | event format event =>
      by_cases own : format = turn.session.format ∧ turn.session.state = .live
      · cases event with
        | data payload =>
            rw [handle_data coherent, if_pos own, Vitals.told, Session.vitals_state, if_pos own]
            exact messagesTo_relay coherent own.2 payload
        | ended reason =>
            have home := coherent.home_of_ne (by simp [own.2])
            rw [handle_ended coherent, if_pos own, ended_of_home home]
            exact quiet rfl (by simp)
      · cases event with
        | data payload =>
            rw [handle_data coherent, if_neg own]
            exact quiet (if_neg own) rfl
        | ended reason =>
            rw [handle_ended coherent, if_neg own]
            exact quiet rfl rfl
  | shutdown h264 jpeg => exact quiet rfl (messagesTo_shutdown turn _ viewer)
  | receive | close => exact quiet rfl rfl

end Turn

/-- A queue answers one message after another. -/
def Mailbox.offerAll (mailbox : Mailbox) : List Message → List (Message × Delivery) × Mailbox
  | [] => ([], mailbox)
  | message :: rest =>
      let later := (mailbox.offer message).2.offerAll rest
      ((message, (mailbox.offer message).1) :: later.1, later.2)

/-- A viewer manages its own queue. -/
def Mailbox.managed (viewer : ViewerId) (mailbox : Mailbox) : Input → Mailbox
  | .receive other count => if other = viewer then (mailbox.take count).2 else mailbox
  | .close other => if other = viewer then mailbox.close else mailbox
  | _ => mailbox

/-- This is the message that is offered to a viewer, with the answer of its queue. -/
def Effect.answered? (viewer : ViewerId) : Effect → Option (Message × Delivery)
  | .call .. => none
  | .offer _ other message delivery => if other = viewer then some (message, delivery) else none

/-- These are the messages that both sessions offer to a viewer, with the answers of its queue. -/
def answersTo (viewer : ViewerId) (effects : List Effect) : List (Message × Delivery) :=
  effects.filterMap (Effect.answered? viewer)

theorem answersTo_append (viewer : ViewerId) (first second : List Effect) :
    answersTo viewer (first ++ second) = answersTo viewer first ++ answersTo viewer second :=
  List.filterMap_append

/-- The queue of a viewer depends on the messages to this viewer only. -/
theorem Faithful.offerAll_answersTo {mail : Mailboxes} {effects : List Effect}
    (faithful : Faithful mail effects) (viewer : ViewerId) :
    (mail.get viewer).offerAll ((answersTo viewer effects).map Prod.fst) =
      (answersTo viewer effects, (mail.replay effects).get viewer) := by
  induction effects generalizing mail with
  | nil => rfl
  | cons effect rest inductionHypothesis =>
      cases effect with
      | call => exact inductionHypothesis faithful
      | offer format other message delivery =>
          obtain ⟨answer, faithful⟩ := faithful
          have tail := inductionHypothesis faithful
          have queue : (mail.offer other message).2 =
              mail.set other ((mail.get other).offer message).2 := rfl
          by_cases same : other = viewer
          · subst same
            have first : answersTo other (.offer format other message delivery :: rest) =
                (message, delivery) :: answersTo other rest := by
              simp [answersTo, Effect.answered?]
            rw [queue, Mailboxes.get_set_self] at tail
            rw [first, List.map_cons, Mailbox.offerAll, tail, answer]
            rfl
          · have skipped : answersTo viewer (.offer format other message delivery :: rest) =
                answersTo viewer rest := by
              simp [answersTo, Effect.answered?, same]
            have apart : (mail.offer other message).2.get viewer = mail.get viewer :=
              Mailboxes.get_set_of_ne mail _ (Ne.symm same)
            rw [skipped, ← apart, tail]
            rfl

/-- Only the session of one format offers something to a viewer that the other one tells nothing. -/
theorem fst_answersTo {format : Format} {viewer : ViewerId} {effects : List Effect}
    (silent : messagesTo format.other viewer effects = []) :
    (answersTo viewer effects).map Prod.fst = messagesTo format viewer effects := by
  rw [answersTo, List.map_filterMap, messagesTo]
  apply List.filterMap_congr
  intro effect member
  have elsewhere := List.filterMap_eq_nil_iff.1 silent effect member
  cases effect with
  | call => rfl
  | offer own other message delivery =>
      by_cases here : own = format
      · by_cases same : other = viewer <;> simp [Effect.answered?, Effect.message?, here, same]
      · have other : own = format.other := Format.eq_other_of_ne here
        simp only [Effect.message?, other, true_and, ite_eq_right_iff, reduceCtorEq,
          imp_false] at elsewhere
        simp [Effect.answered?, Effect.message?, here, elsewhere]

/-- A viewer sees how its session is doing, and it has its queue. -/
structure View where
  vitals : Vitals
  mailbox : Mailbox
  deriving DecidableEq, Repr

namespace View

/-- The viewer manages its queue, and the queue answers what the viewer is told. -/
def step (format : Format) (viewer : ViewerId) (view : View) (input : Input) :
    View × List (Message × Delivery) :=
  let answered := (view.mailbox.managed viewer input).offerAll (view.vitals.told format input)
  (⟨view.vitals.next format input, answered.2⟩, answered.1)

def run (format : Format) (viewer : ViewerId) (view : View) :
    List Input → View × List (Message × Delivery)
  | [] => (view, [])
  | input :: rest =>
      let later := (view.step format viewer input).1.run format viewer rest
      (later.1, (view.step format viewer input).2 ++ later.2)

end View

/-- Only its own viewer has anything to do with such an input. -/
def Input.isShared (viewer : ViewerId) : Input → Bool
  | .receive other _ | .close other => other = viewer
  | _ => true

namespace View

variable {format : Format} {viewer : ViewerId}

theorem step_of_unshared (view : View) {input : Input} (unshared : input.isShared viewer = false) :
    view.step format viewer input = (view, []) := by
  cases input with
  | receive | close =>
      have elsewhere := of_decide_eq_false unshared
      simp [step, Mailbox.managed, Vitals.told, Vitals.next, Mailbox.offerAll, elsewhere]
  | subscribe | unsubscribe | started | event | shutdown => cases unshared

/-- What other viewers do with their queues is no input of a view. -/
theorem run_filter (view : View) (inputs : List Input) :
    view.run format viewer (inputs.filter (Input.isShared viewer)) =
      view.run format viewer inputs := by
  induction inputs generalizing view with
  | nil => rfl
  | cons input rest inductionHypothesis =>
      cases shared : input.isShared viewer with
      | true => rw [List.filter_cons_of_pos shared, run, run, inductionHypothesis]
      | false =>
          rw [List.filter_cons_of_neg (by simp [shared]), inductionHypothesis, run,
            step_of_unshared view shared]
          rfl

end View

namespace Scene

variable {scene : Scene} {format : Format} {viewer : ViewerId}

def view (scene : Scene) (format : Format) (viewer : ViewerId) : View :=
  ⟨(scene.station.session format).vitals, scene.mail.get viewer⟩

/-- The queue of a viewer changes by what the viewer does and by the messages to it. -/
theorem queue_step (scene : Scene) (viewer : ViewerId) (input : Input) :
    ((scene.mail.get viewer).managed viewer input).offerAll
        ((answersTo viewer (scene.step input).2).map Prod.fst) =
      (answersTo viewer (scene.step input).2, (scene.step input).1.mail.get viewer) := by
  have set (other : ViewerId) (mailbox : Mailbox) (distinct : other ≠ viewer) :
      (scene.mail.set other mailbox).get viewer = scene.mail.get viewer :=
    Mailboxes.get_set_of_ne scene.mail mailbox distinct.symm
  have handled (result : Scene × List Effect) (replays : scene.Replays result) :
      (scene.mail.get viewer).offerAll ((answersTo viewer result.2).map Prod.fst) =
        (answersTo viewer result.2, result.1.mail.get viewer) := by
    rw [replays.mail]
    exact replays.faithful.offerAll_answersTo viewer
  cases input with
  | receive other count =>
      by_cases same : other = viewer
      · subst same
        simp [step, handle, Mailbox.managed, answersTo, Mailbox.offerAll]
      · simp [step, handle, Mailbox.managed, answersTo, Mailbox.offerAll, same, set]
  | close other =>
      by_cases same : other = viewer
      · subst same
        simp [step, handle, Mailbox.managed, answersTo, Mailbox.offerAll]
      · simp [step, handle, Mailbox.managed, answersTo, Mailbox.offerAll, same, set]
  | subscribe | unsubscribe | started | event | shutdown =>
      cases isOpen : scene.station.isOpen with
      | true =>
          rw [step_of_open isOpen]
          exact handled _ (.handle scene _ (by simp))
      | false =>
          refine handled _ (.nothing ?_ (step_of_closed isOpen _).2)
          simp [step, isOpen]

/-- As long as a viewer stays, its view goes on by itself. -/
theorem view_step (coherent : scene.Coherent) (deserted : scene.Deserted) (input : Input)
    (here : (scene.station.session format).contains viewer = true)
    (stays : ((scene.step input).1.station.session format).contains viewer = true) :
    ((scene.step input).1.view format viewer, answersTo viewer (scene.step input).2) =
      (scene.view format viewer).step format viewer input := by
  cases isOpen : scene.station.isOpen with
  | false => exact absurd (deserted isOpen format) (Session.subscribers_ne_nil here)
  | true =>
  have messages (own : Format) (same : ((scene.step input).1.station.session own).contains viewer =
      (scene.station.session own).contains viewer) :
      messagesTo own viewer (scene.step input).2 =
        if (scene.station.session own).contains viewer then
          (scene.station.session own).vitals.told own input
        else [] := by
    have shows := step_shows coherent.sorted isOpen input own
    have session : (scene.turn own).session.Coherent := coherent.sessions own
    have format : (scene.turn own).session.format = own := coherent.sorted own
    rw [shows.session] at same
    have told := Turn.messagesTo_handle session (scene.catchUp own) input same
    rw [format, ← shows.effects, messagesTo_effectsOf] at told
    exact told
  have silent : messagesTo format.other viewer (scene.step input).2 = [] := by
    have before := coherent.exclusive viewer format here
    have after := (coherent.step input).exclusive viewer format stays
    rw [messages format.other (after.trans before.symm), before]
    rfl
  have told := messages format (stays.trans here.symm)
  rw [if_pos here, ← fst_answersTo silent] at told
  have queue := queue_step scene viewer input
  rw [told] at queue
  have shows := step_shows coherent.sorted isOpen input format
  have vitals : ((scene.step input).1.station.session format).vitals =
      (scene.station.session format).vitals.next format input := by
    rw [shows.session] at stays ⊢
    have same := Turn.vitals_handle (coherent.sessions format) (scene.catchUp format) input here
      stays
    rwa [show (scene.turn format).session.format = format from coherent.sorted format] at same
  simp only [View.step, view, vitals, queue]

/-- A viewer stays in a session throughout a run. -/
def Keeps (scene : Scene) (format : Format) (viewer : ViewerId) (inputs : List Input) : Prop :=
  ∀ step ∈ scene.steps inputs, (step.after.station.session format).contains viewer = true

instance (scene : Scene) (format : Format) (viewer : ViewerId) (inputs : List Input) :
    Decidable (scene.Keeps format viewer inputs) :=
  inferInstanceAs (Decidable (∀ step ∈ scene.steps inputs, _))

/-- A viewer that stays throughout a run also stays throughout its beginning. -/
theorem Keeps.former {former latter : List Input}
    (keeps : scene.Keeps format viewer (former ++ latter)) : scene.Keeps format viewer former := by
  induction former generalizing scene with
  | nil => simp [Keeps, steps]
  | cons input rest inductionHypothesis =>
      obtain ⟨first, others⟩ := List.forall_mem_cons.1 keeps
      exact List.forall_mem_cons.2 ⟨first, inductionHypothesis others⟩

/-- In a run, the view of a viewer that stays depends on the shared inputs only. -/
theorem view_run (coherent : scene.Coherent) (deserted : scene.Deserted) {inputs : List Input}
    (here : (scene.station.session format).contains viewer = true)
    (keeps : scene.Keeps format viewer inputs) :
    ((scene.run inputs).1.view format viewer, answersTo viewer (scene.run inputs).2) =
      (scene.view format viewer).run format viewer inputs := by
  induction inputs generalizing scene with
  | nil => rfl
  | cons input rest inductionHypothesis =>
      obtain ⟨stays, others⟩ := List.forall_mem_cons.1 keeps
      have first := view_step coherent deserted input here stays
      have later := inductionHypothesis (coherent.step input) (deserted.step coherent input) stays
        others
      rw [View.run, ← first, ← later, run, answersTo_append]

theorem Deserted.run (serial : String) (mail : Mailboxes) (inputs : List Input) :
    ((opened serial mail).run inputs).1.Deserted := by
  have first : (opened serial mail).Coherent ∧ (opened serial mail).Deserted := by
    refine ⟨Coherent.opened serial mail, fun closed => ?_⟩
    cases closed
  exact (run_induction (fun scene _ => scene.Coherent ∧ scene.Deserted)
    (fun _ _ input held => ⟨held.1.step input, held.2.step held.1 input⟩) [] first inputs).2

/-- After any run, two scenes differ in the queues of other viewers, and they go on differently only
in what other viewers do with their queues. A viewer that stays in its session is offered the same
messages with the same answers, and after the same shared inputs its session has the same state and
counters. -/
theorem viewer_isolated (serial : String) (mail : Mailboxes) (inputs : List Input)
    (format : Format) (viewer : ViewerId) (queues : Mailboxes) (first second : List Input) :
    let scene := ((opened serial mail).run inputs).1
    let twin : Scene := { scene with mail := queues }
    (scene.station.session format).contains viewer = true →
    queues.get viewer = scene.mail.get viewer →
    scene.Keeps format viewer first →
    twin.Keeps format viewer second →
    ∀ former latter, former <+: first → latter <+: second →
      former.filter (Input.isShared viewer) = latter.filter (Input.isShared viewer) →
      answersTo viewer (scene.run former).2 = answersTo viewer (twin.run latter).2 ∧
        (scene.run former).1.view format viewer = (twin.run latter).1.view format viewer := by
  intro scene twin here same keeps remains former latter begins starts shared
  have coherent : scene.Coherent := (Coherent.opened serial mail).run inputs
  have deserted : scene.Deserted := Deserted.run serial mail inputs
  have alike : twin.Coherent := coherent.ofStation rfl
  obtain ⟨rest, rfl⟩ := begins
  obtain ⟨others, rfl⟩ := starts
  have one := view_run coherent deserted here keeps.former
  have two := view_run alike deserted here remains.former
  have view : twin.view format viewer = scene.view format viewer := by
    simp only [Scene.view, twin, same]
  rw [view, ← View.run_filter, ← shared, View.run_filter, ← one] at two
  obtain ⟨views, answers⟩ := Prod.mk.inj two
  exact ⟨answers.symm, views.symm⟩

/-- A slow viewer loses a payload in one continuation and is found closed in the other one. The
viewer beside it gets both payloads each time. -/
theorem viewer_isolated_slow_neighbour :
    let mail : Mailboxes := ⟨[("viewer", .create 8), ("slow", .create 1)]⟩
    let scene := ((opened "device" mail).run [.subscribe "viewer" .jpeg, .subscribe "slow" .jpeg,
      .started .jpeg (.live (.jpeg 360 640 {}))]).1
    let twin : Scene := { scene with mail := scene.mail.set "slow" (.create 2) }
    let first : List Input :=
      [.event .jpeg (.data [1]), .receive "slow" 1, .event .jpeg (.data [2])]
    let second : List Input := [.close "slow", .event .jpeg (.data [1]), .event .jpeg (.data [2])]
    (scene.run first).1.station.jpeg.contains "slow" = true ∧
      (twin.run second).1.station.jpeg.contains "slow" = false ∧
      answersTo "viewer" (scene.run first).2 = answersTo "viewer" (twin.run second).2 ∧
      (scene.run first).1.view .jpeg "viewer" = (twin.run second).1.view .jpeg "viewer" := by
  intro mail scene twin first second
  refine ⟨by decide +kernel, by decide +kernel, ?_⟩
  exact viewer_isolated "device" mail [.subscribe "viewer" .jpeg, .subscribe "slow" .jpeg,
    .started .jpeg (.live (.jpeg 360 640 {}))] .jpeg "viewer" (scene.mail.set "slow" (.create 2))
    first second (by decide +kernel) (by decide +kernel) (by decide +kernel) (by decide +kernel)
    first second List.prefix_rfl List.prefix_rfl (by decide +kernel)

end Scene

end Screencast.Broadcast
