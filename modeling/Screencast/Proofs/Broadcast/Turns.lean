/-
This file says what each operation of a turn does to its session and which effects it adds.
-/

import Screencast.Broadcast.Session

namespace Screencast.Broadcast

namespace Effect

/-- An effect belongs to the session of one format. -/
def format : Effect → Format
  | .call format _ => format
  | .offer format .. => format

def call? (format : Format) : Effect → Option SourceCall
  | .call own sent => if own = format then some sent else none
  | .offer .. => none

def message? (format : Format) (viewer : ViewerId) : Effect → Option Message
  | .call .. => none
  | .offer own other message _ => if own = format ∧ other = viewer then some message else none

end Effect

/-- These are the calls that the source of a format receives, the oldest first. -/
def callsOf (format : Format) (effects : List Effect) : List SourceCall :=
  effects.filterMap (Effect.call? format)

/-- These are the messages that the session of a format offers to a viewer, the oldest first. -/
def messagesTo (format : Format) (viewer : ViewerId) (effects : List Effect) : List Message :=
  effects.filterMap (Effect.message? format viewer)

section Effects

variable (format : Format) (viewer other : ViewerId)

@[simp] theorem callsOf_nil : callsOf format [] = [] := rfl

@[simp] theorem callsOf_append (first second : List Effect) :
    callsOf format (first ++ second) = callsOf format first ++ callsOf format second :=
  List.filterMap_append

@[simp] theorem callsOf_call (call : SourceCall) : callsOf format [.call format call] = [call] := by
  simp [callsOf, Effect.call?]

@[simp] theorem callsOf_offer (own : Format) (message : Message) (delivery : Delivery) :
    callsOf format [.offer own other message delivery] = [] := rfl

@[simp] theorem messagesTo_nil : messagesTo format viewer [] = [] := rfl

@[simp] theorem messagesTo_append (first second : List Effect) :
    messagesTo format viewer (first ++ second) =
      messagesTo format viewer first ++ messagesTo format viewer second :=
  List.filterMap_append

@[simp] theorem messagesTo_call (own : Format) (call : SourceCall) :
    messagesTo format viewer [.call own call] = [] := rfl

@[simp] theorem messagesTo_offer (message : Message) (delivery : Delivery) :
    messagesTo format viewer [.offer format other message delivery] =
      if other = viewer then [message] else [] := by
  by_cases same : other = viewer <;> simp [messagesTo, Effect.message?, same]

end Effects

/-- A start that was cancelled has not failed. -/
def Outcome.isFailed : Outcome → Bool
  | .failed _ => true
  | .live _ | .cancelled => false

namespace Session

@[simp] theorem markAnnounced_format (session : Session) (viewer : ViewerId) :
    (session.markAnnounced viewer).format = session.format := rfl

@[simp] theorem join_format (session : Session) (viewer : ViewerId) :
    (session.join viewer).format = session.format := rfl

end Session

namespace Turn

/-- The source is at home when it is called, so that the call reaches it. -/
theorem start_of_home (turn : Turn) (home : turn.session.sourceHome = true) :
    turn.start = { turn with
      session := { turn.session with
        sourceHome := false, token := some false, state := .starting
        starts := turn.session.starts + 1 }
      effects := turn.effects ++ [.call turn.session.format .start] } := by
  simp [start, home, call]

theorem stopLive_of_home (turn : Turn) (home : turn.session.sourceHome = true) :
    turn.stopLive = { turn with
      session := { turn.session with
        listening := false, info := none, state := .idle, stops := turn.session.stops + 1 }
      effects := turn.effects ++ [.call turn.session.format .stop] } := by
  simp [stopLive, stopSource, home, call]

section

variable (turn : Turn)

/-- A stop is the only effect of the end of a stream, and its viewers stay. -/
@[simp] theorem stopLive_mail : turn.stopLive.mail = turn.mail := by
  simp only [stopLive, stopSource, call]
  split <;> rfl

@[simp] theorem stopLive_state : turn.stopLive.session.state = .idle := by
  simp only [stopLive, stopSource, call]
  split <;> rfl

@[simp] theorem stopLive_subscribers :
    turn.stopLive.session.subscribers = turn.session.subscribers := by
  simp only [stopLive, stopSource, call]
  split <;> rfl

@[simp] theorem messagesTo_stopLive (format : Format) (viewer : ViewerId) :
    messagesTo format viewer turn.stopLive.effects = messagesTo format viewer turn.effects := by
  simp only [stopLive, stopSource, call]
  split <;> simp

end

@[simp] theorem offer_session (turn : Turn) (viewer : ViewerId) (message : Message) :
    (turn.offer viewer message).2.session = turn.session := rfl

theorem offer_effects (turn : Turn) (viewer : ViewerId) (message : Message) :
    (turn.offer viewer message).2.effects = turn.effects ++
      [.offer turn.session.format viewer message (turn.offer viewer message).1] := rfl

@[simp] theorem offerEach_session (turn : Turn) (viewer : ViewerId) (messages : List Message) :
    (turn.offerEach viewer messages).session = turn.session := by
  induction messages generalizing turn with
  | nil => rfl
  | cons message rest inductionHypothesis => exact inductionHypothesis _

@[simp] theorem callsOf_offerEach (turn : Turn) (viewer : ViewerId) (messages : List Message)
    (format : Format) :
    callsOf format (turn.offerEach viewer messages).effects = callsOf format turn.effects := by
  induction messages generalizing turn with
  | nil => rfl
  | cons message rest inductionHypothesis =>
      exact (inductionHypothesis _).trans (by simp [offer_effects])

/-- The messages go to their viewer in their order. -/
theorem messagesTo_offerEach (turn : Turn) {format : Format} (own : turn.session.format = format)
    (viewer other : ViewerId) (messages : List Message) :
    messagesTo format viewer (turn.offerEach other messages).effects =
      messagesTo format viewer turn.effects ++ if other = viewer then messages else [] := by
  induction messages generalizing turn with
  | nil => simp [offerEach]
  | cons message rest inductionHypothesis =>
      have tail := inductionHypothesis (turn.offer other message).2 own
      rw [offer_effects, own, messagesTo_append, messagesTo_offer, List.append_assoc] at tail
      refine tail.trans ?_
      by_cases same : other = viewer <;> simp [same]

@[simp] theorem announce_session (turn : Turn) (info : StartInfo) (catchUp : List Octets)
    (viewer : ViewerId) :
    (turn.announce info catchUp viewer).session = turn.session.markAnnounced viewer :=
  offerEach_session _ _ _

@[simp] theorem callsOf_announce (turn : Turn) (info : StartInfo) (catchUp : List Octets)
    (viewer : ViewerId) (format : Format) :
    callsOf format (turn.announce info catchUp viewer).effects = callsOf format turn.effects :=
  callsOf_offerEach _ _ _ _

theorem messagesTo_announce {turn : Turn} {format : Format} (own : turn.session.format = format)
    (info : StartInfo) (catchUp : List Octets) (viewer other : ViewerId) :
    messagesTo format viewer (turn.announce info catchUp other).effects =
      messagesTo format viewer turn.effects ++
        if other = viewer then .start info :: catchUp.map .frame else [] :=
  messagesTo_offerEach { turn with session := turn.session.markAnnounced other } own ..

/-- This is a turn with other subscribers. -/
def withSubscribers (turn : Turn) (subscribers : List Subscriber) : Turn :=
  { turn with session := { turn.session with subscribers } }

/-- Viewers leave a session in one of these ways. The last one stops a running source or cancels a
pending start. -/
inductive Left (turn : Turn) (rest : List Subscriber) : Bool × Turn → Prop
  | nobody (same : turn.session.subscribers = rest) : Left turn rest (false, turn)
  | some (remain : rest ≠ []) :
      Left turn rest (false, turn.withSubscribers rest)
  | idle (empty : rest = []) (idle : turn.session.state = .idle) :
      Left turn rest (false, turn.withSubscribers rest)
  | starting (empty : rest = []) (starting : turn.session.state = .starting) :
      Left turn rest (false, { turn with session := { turn.session with
        subscribers := rest, token := turn.session.token.map fun _ => true } })
  | live (empty : rest = []) (live : turn.session.state = .live) :
      Left turn rest (true, (turn.withSubscribers rest).stopLive)

theorem unsubscribe_left (turn : Turn) (gone : List ViewerId) :
    Left turn (turn.session.subscribers.filter fun subscriber => subscriber.viewer ∉ gone)
      (turn.unsubscribe gone) := by
  generalize kept : (turn.session.subscribers.filter fun subscriber =>
    decide (subscriber.viewer ∉ gone)) = rest
  simp only [unsubscribe, kept]
  split
  case isFalse nobody =>
    refine .nobody ?_
    rw [← kept, eq_comm, List.filter_eq_self]
    simpa using nobody
  case isTrue =>
    split
    case isTrue remain => exact .some (by simpa using remain)
    case isFalse remain =>
      have empty : rest = [] := by simpa using remain
      split
      case h_1 idle => exact .idle empty idle
      case h_2 starting => exact .starting empty starting
      case h_3 live => exact .live empty live

/-- A running source is stopped exactly when viewers leave it without one. -/
theorem unsubscribe_live (turn : Turn) (gone : List ViewerId) :
    decide ((turn.unsubscribe gone).2.session.state = .live) =
      (decide (turn.session.state = .live) && !(turn.unsubscribe gone).1) := by
  have left := unsubscribe_left turn gone
  generalize turn.unsubscribe gone = result at left
  cases left with
  | nobody | some => simp [withSubscribers]
  | idle _ idle => simp [withSubscribers, idle]
  | starting _ starting => simp [starting]
  | live => simp

theorem live_of_unsubscribe {turn : Turn} {gone : List ViewerId}
    (live : (turn.unsubscribe gone).2.session.state = .live) : turn.session.state = .live := by
  have running := unsubscribe_live turn gone
  rw [live, decide_eq_true rfl, eq_comm, Bool.and_eq_true] at running
  exact of_decide_eq_true running.1

/-- A running stream keeps its description while viewers leave it. -/
theorem info_unsubscribe {turn : Turn} {gone : List ViewerId}
    (live : (turn.unsubscribe gone).2.session.state = .live) :
    (turn.unsubscribe gone).2.session.info = turn.session.info := by
  have running := unsubscribe_live turn gone
  rw [live, decide_eq_true rfl, eq_comm, Bool.and_eq_true] at running
  have left := unsubscribe_left turn gone
  generalize turn.unsubscribe gone = result at left running
  cases left with
  | nobody | some | idle | starting => rfl
  | live => cases running.2

/-- What an offer to many viewers does before the closed ones are removed. -/
structure Offered (turn : Turn) (message : Message) (viewers : List ViewerId) (offered : Turn) :
    Prop where
  session : ∃ lost, offered.session =
    { turn.session with dropped := turn.session.dropped + lost }
  calls : ∀ format, callsOf format offered.effects = callsOf format turn.effects
  messages : ∀ viewer, messagesTo turn.session.format viewer offered.effects =
    messagesTo turn.session.format viewer turn.effects ++
      List.replicate (viewers.count viewer) message

theorem Offered.format {turn offered : Turn} {message : Message} {viewers : List ViewerId}
    (done : Offered turn message viewers offered) :
    offered.session.format = turn.session.format := by
  obtain ⟨lost, same⟩ := done.session
  rw [same]

theorem Offered.trans {turn middle last : Turn} {message : Message} {first rest : List ViewerId}
    (former : Offered turn message first middle) (latter : Offered middle message rest last) :
    Offered turn message (first ++ rest) last where
  session := by
    obtain ⟨early, sameEarly⟩ := former.session
    obtain ⟨late, sameLate⟩ := latter.session
    exact ⟨early + late, by rw [sameLate, sameEarly, Nat.add_assoc]⟩
  calls format := (latter.calls format).trans (former.calls format)
  messages viewer := by
    have tail := latter.messages viewer
    rw [former.format, former.messages viewer] at tail
    rw [tail, List.append_assoc, List.replicate_append_replicate, List.count_append]

theorem offerCounted_offered (turn : Turn) (message : Message) (closed : List ViewerId)
    (viewer : ViewerId) :
    Offered turn message [viewer] (offerCounted message (closed, turn) viewer).2 := by
  have session := offer_session turn viewer message
  have effects := offer_effects turn viewer message
  rcases found : turn.offer viewer message with ⟨delivery, next⟩
  simp only [found] at session effects
  have messages (other : ViewerId) : messagesTo turn.session.format other next.effects =
      messagesTo turn.session.format other turn.effects ++
        List.replicate ([viewer].count other) message := by
    rw [effects, messagesTo_append, messagesTo_offer]
    by_cases same : viewer = other <;> simp [same]
  have calls (format : Format) : callsOf format next.effects = callsOf format turn.effects := by
    simp [effects]
  simp only [offerCounted, found]
  cases delivery with
  | sent => exact ⟨⟨0, session⟩, calls, messages⟩
  | dropped => exact ⟨⟨1, by simp only [session]⟩, calls, messages⟩
  | closed => exact ⟨⟨0, session⟩, calls, messages⟩

theorem foldl_offerCounted (turn : Turn) (message : Message) (closed : List ViewerId)
    (viewers : List ViewerId) :
    Offered turn message viewers (viewers.foldl (offerCounted message) (closed, turn)).2 := by
  induction viewers generalizing closed turn with
  | nil => exact ⟨⟨0, rfl⟩, fun _ => rfl, fun _ => by simp⟩
  | cons first rest inductionHypothesis =>
      exact (offerCounted_offered turn message closed first).trans (inductionHypothesis _ _)

/-- A delivery offers the message once to each viewer and then lets the closed ones leave. -/
theorem deliver_offered (turn : Turn) (message : Message) (viewers : List ViewerId) :
    ∃ offered gone, Offered turn message viewers offered ∧
      turn.deliver message viewers = offered.unsubscribe gone :=
  ⟨_, _, foldl_offerCounted turn message [] viewers, rfl⟩

theorem started_live_unwatched {turn : Turn} (empty : turn.session.subscribers = [])
    (info : StartInfo) :
    turn.started (.live info) = { turn with
      session := { turn.session with
        sourceHome := true, token := none, state := .idle, stops := turn.session.stops + 1 }
      effects := turn.effects ++ [.call turn.session.format .stop] } := by
  simp [started, goLive, empty, stopSource, call]

theorem started_cancelled_unwatched {turn : Turn} (empty : turn.session.subscribers = []) :
    turn.started .cancelled = { turn with
      session := { turn.session with
        sourceHome := true, token := none, state := .idle, stops := turn.session.stops + 1 }
      effects := turn.effects ++ [.call turn.session.format .stop] } := by
  simp [started, empty, call]

/-- A cancelled start is made again when viewers came meanwhile. -/
theorem started_cancelled_watched {turn : Turn} (watched : turn.session.subscribers ≠ []) :
    turn.started .cancelled = { turn with
      session := { turn.session with
        sourceHome := false, token := some false, state := .starting
        starts := turn.session.starts + 1, stops := turn.session.stops + 1 }
      effects := turn.effects ++
        [.call turn.session.format .stop, .call turn.session.format .start] } := by
  simp [started, watched, call, start]

/-- Announcing to some viewers marks them and tells each of them once. -/
theorem foldl_announce (turn : Turn) (info : StartInfo) (viewers : List ViewerId) :
    let last := viewers.foldl (fun turn viewer => turn.announce info [] viewer) turn
    last.session = { turn.session with
        subscribers := turn.session.subscribers.map fun subscriber =>
          { subscriber with
            announced := subscriber.announced || decide (subscriber.viewer ∈ viewers) } } ∧
      (∀ format, callsOf format last.effects = callsOf format turn.effects) ∧
      ∀ viewer, messagesTo turn.session.format viewer last.effects =
        messagesTo turn.session.format viewer turn.effects ++
          List.replicate (viewers.count viewer) (.start info) := by
  induction viewers generalizing turn with
  | nil => simp
  | cons first rest inductionHypothesis =>
      obtain ⟨session, calls, messages⟩ := inductionHypothesis (turn.announce info [] first)
      refine ⟨?_, fun format => ?_, fun viewer => ?_⟩
      · rw [List.foldl_cons, session, announce_session]
        simp only [Session.markAnnounced, List.map_map, Session.mk.injEq, List.map_inj_left,
          true_and, and_true]
        intro subscriber _
        by_cases same : subscriber.viewer = first <;> simp [same]
      · rw [List.foldl_cons, calls, callsOf_announce]
      · have tail := messages viewer
        rw [announce_session, Session.markAnnounced_format, messagesTo_announce rfl] at tail
        rw [List.foldl_cons, tail, List.append_assoc]
        by_cases same : first = viewer <;> simp [same, List.replicate_succ]

/-- The viewers of a pending start are all told when it succeeds. -/
theorem started_live_watched {turn : Turn} (watched : turn.session.subscribers ≠ [])
    (info : StartInfo) :
    (turn.started (.live info)).session = { turn.session with
        sourceHome := true, token := none, state := .live, listening := true, info := some info
        subscribers := turn.session.subscribers.map fun subscriber =>
          { subscriber with announced := true } } ∧
      (∀ format, callsOf format (turn.started (.live info)).effects =
        callsOf format turn.effects) ∧
      ∀ viewer, messagesTo turn.session.format viewer (turn.started (.live info)).effects =
        messagesTo turn.session.format viewer turn.effects ++ List.replicate
          ((turn.session.subscribers.map Subscriber.viewer).count viewer) (.start info) := by
  let live : Turn := { turn with session := { turn.session with
    sourceHome := true, token := none, state := .live, listening := true, info := some info } }
  obtain ⟨session, calls, messages⟩ :=
    foldl_announce live info (turn.session.subscribers.map Subscriber.viewer)
  have opened : turn.started (.live info) = (turn.session.subscribers.map Subscriber.viewer).foldl
      (fun turn viewer => turn.announce info [] viewer) live := by
    simp [started, goLive, watched, live]
  rw [opened]
  refine ⟨?_, calls, messages⟩
  rw [session]
  simp only [live, Session.mk.injEq, List.map_inj_left, true_and, and_true]
  intro subscriber member
  simp [List.mem_map_of_mem member]

/-- Viewers that leave an idle session change nothing else. -/
theorem unsubscribe_idle {turn : Turn} (idle : turn.session.state = .idle)
    (gone : List ViewerId) :
    (turn.unsubscribe gone).2 = { turn with session := { turn.session with
      subscribers := turn.session.subscribers.filter fun subscriber =>
        subscriber.viewer ∉ gone } } := by
  have left := unsubscribe_left turn gone
  generalize turn.session.subscribers.filter (fun subscriber =>
    decide (subscriber.viewer ∉ gone)) = rest at left ⊢
  generalize turn.unsubscribe gone = result at left
  cases left with
  | nobody same => rw [← same]
  | some | idle => rfl
  | starting _ starting => rw [starting] at idle; cases idle
  | live _ live => rw [live] at idle; cases idle

/-- A failed start has stopped its source. Its viewers stay, except those that are found closed when
they are told. -/
theorem started_failed (turn : Turn) (fault : Fault) :
    ∃ (lost : Nat) (gone : List ViewerId),
      (turn.started (.failed fault)).session = { turn.session with
          sourceHome := true, token := none, state := .idle
          subscribers := turn.session.subscribers.filter fun subscriber =>
            subscriber.viewer ∉ gone
          dropped := turn.session.dropped + lost } ∧
        callsOf turn.session.format (turn.started (.failed fault)).effects =
          callsOf turn.session.format turn.effects ++ [.stop] ∧
        ∀ viewer, messagesTo turn.session.format viewer (turn.started (.failed fault)).effects =
          messagesTo turn.session.format viewer turn.effects ++
            if turn.session.reportsFailure then List.replicate
              ((turn.session.subscribers.map Subscriber.viewer).count viewer)
              (.failure fault.message)
            else [] := by
  let stopped : Turn := { turn with
    session := { turn.session with sourceHome := true, token := none, state := .idle }
    effects := turn.effects ++ [.call turn.session.format .stop] }
  have unfolded : turn.started (.failed fault) =
      if stopped.session.reportsFailure then
        (stopped.deliver (.failure fault.message)
          (stopped.session.subscribers.map Subscriber.viewer)).2
      else stopped := rfl
  by_cases reports : turn.session.reportsFailure
  · obtain ⟨offered, gone, ⟨⟨lost, session⟩, calls, messages⟩, delivered⟩ :=
      deliver_offered stopped (.failure fault.message)
        (stopped.session.subscribers.map Subscriber.viewer)
    have idle : offered.session.state = .idle := by rw [session]
    rw [unfolded, if_pos (show stopped.session.reportsFailure = true from reports), delivered,
      unsubscribe_idle idle]
    refine ⟨lost, gone, by simp only [session, stopped], ?_, fun viewer => ?_⟩
    · rw [calls]
      simp [stopped]
    · rw [messages viewer]
      simp [stopped, reports]
  · rw [unfolded, if_neg (show ¬ stopped.session.reportsFailure = true from reports)]
    have everybody : turn.session.subscribers.filter (fun subscriber =>
        decide (subscriber.viewer ∉ ([] : List ViewerId))) = turn.session.subscribers :=
      List.filter_eq_self.2 (by simp)
    exact ⟨0, [], by simp only [stopped, everybody, Nat.add_zero], by simp [stopped],
      fun viewer => by simp [stopped, reports]⟩

/-- A payload is offered once to every announced viewer, and then the closed ones leave. -/
theorem relay_offered (turn : Turn) (payload : Octets) :
    ∃ (offered : Turn) (lost : Nat) (gone : List ViewerId),
      offered.session = { turn.session with
          relayed := turn.session.relayed + 1, dropped := turn.session.dropped + lost } ∧
        (∀ format, callsOf format offered.effects = callsOf format turn.effects) ∧
        (∀ viewer, messagesTo turn.session.format viewer offered.effects =
          messagesTo turn.session.format viewer turn.effects ++ List.replicate
            (((turn.session.subscribers.filter Subscriber.announced).map
              Subscriber.viewer).count viewer) (.frame payload)) ∧
        turn.relay payload = offered.unsubscribe gone := by
  let counted : Turn :=
    { turn with session := { turn.session with relayed := turn.session.relayed + 1 } }
  obtain ⟨offered, gone, ⟨⟨lost, session⟩, calls, messages⟩, delivered⟩ :=
    deliver_offered counted (.frame payload)
      ((counted.session.subscribers.filter Subscriber.announced).map Subscriber.viewer)
  exact ⟨offered, lost, gone, session, calls, messages, delivered⟩

theorem relay_live (turn : Turn) (payload : Octets) :
    decide ((turn.relay payload).2.session.state = .live) =
      (decide (turn.session.state = .live) && !(turn.relay payload).1) := by
  obtain ⟨offered, lost, gone, session, -, -, relayed⟩ := relay_offered turn payload
  rw [relayed, unsubscribe_live, session]

theorem ended_state (turn : Turn) : turn.ended.session.state = .idle := stopLive_state turn

theorem ended_of_home {turn : Turn} (home : turn.session.sourceHome = true) :
    turn.ended = { turn with
      session := { turn.session with
        listening := false, info := none, state := .idle, stops := turn.session.stops + 1
        subscribers := turn.session.subscribers.map fun subscriber =>
          { subscriber with announced := false } }
      effects := turn.effects ++ [.call turn.session.format .stop] } := by
  simp [ended, stopLive_of_home turn home]

/-- A start without viewers ends with its source stopped, whatever it reports. -/
theorem started_unwatched (turn : Turn) (empty : turn.session.subscribers = [])
    (outcome : Outcome) :
    (∃ lost, (turn.started outcome).session = { turn.session with
        sourceHome := true, token := none, state := .idle
        stops := turn.session.stops + if outcome.isFailed then 0 else 1
        dropped := turn.session.dropped + lost }) ∧
      callsOf turn.session.format (turn.started outcome).effects =
        callsOf turn.session.format turn.effects ++ [.stop] ∧
      ∀ viewer, messagesTo turn.session.format viewer (turn.started outcome).effects =
        messagesTo turn.session.format viewer turn.effects := by
  cases outcome with
  | live info =>
      rw [started_live_unwatched empty]
      exact ⟨⟨0, rfl⟩, by simp, fun viewer => by simp⟩
  | cancelled =>
      rw [started_cancelled_unwatched empty]
      exact ⟨⟨0, rfl⟩, by simp, fun viewer => by simp⟩
  | failed fault =>
      obtain ⟨lost, gone, session, calls, messages⟩ := started_failed turn fault
      refine ⟨⟨lost, ?_⟩, calls, fun viewer => ?_⟩
      · simp only [session, empty, List.filter_nil, Outcome.isFailed, if_true, Nat.add_zero]
      · simp [messages, empty]

/-- A shutdown settles a pending start, stops a running source or finds the session idle. -/
theorem shutdown_pending {turn : Turn} (pending : turn.session.token.isSome) (outcome : Outcome) :
    turn.shutdown outcome =
      (turn.withSubscribers []).started outcome := by
  obtain ⟨⟨lost, session⟩, -, -⟩ := (turn.withSubscribers []).started_unwatched rfl outcome
  have idle : ((turn.withSubscribers []).started outcome).session.state ≠ .live := by
    simp [session]
  obtain ⟨token, present⟩ := Option.isSome_iff_exists.1 pending
  simp only [shutdown, present]
  exact if_neg idle

theorem shutdown_settled {turn : Turn} (settled : turn.session.token = none) (outcome : Outcome) :
    turn.shutdown outcome =
      if turn.session.state = .live then (turn.withSubscribers []).stopLive
      else turn.withSubscribers [] := by
  simp only [shutdown, settled, withSubscribers]

end Turn

end Screencast.Broadcast
