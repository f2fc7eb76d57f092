/-
This file says what a session tells a viewer of its stream while it handles one input.
-/

import Screencast.Proofs.Broadcast.Stations

namespace Screencast.Broadcast

/-- A stream consists of its start message and its payloads. -/
def Message.isStreamed : Message → Bool
  | .start _ | .frame _ => true
  | .failure _ => false

/-- These are the messages of the stream of a format that are offered to a viewer. -/
def streamedTo (format : Format) (viewer : ViewerId) (effects : List Effect) : List Message :=
  (messagesTo format viewer effects).filter Message.isStreamed

theorem streamedTo_append (format : Format) (viewer : ViewerId) (first second : List Effect) :
    streamedTo format viewer (first ++ second) =
      streamedTo format viewer first ++ streamedTo format viewer second := by
  rw [streamedTo, messagesTo_append, List.filter_append]
  rfl

theorem streamedTo_effectsOf (format : Format) (viewer : ViewerId) (effects : List Effect) :
    streamedTo format viewer (effectsOf format effects) = streamedTo format viewer effects := by
  rw [streamedTo, messagesTo_effectsOf, streamedTo]

/-- This is how an input describes the stream of a format. -/
def Input.description? (format : Format) : Input → Option StartInfo
  | .started own (.live info) => if own = format then some info else none
  | _ => none

namespace Session

/-- A viewer watches a session whose stream is running. -/
def watchedBy (session : Session) (viewer : ViewerId) : Bool :=
  session.contains viewer && session.state = .live

theorem watchedBy_iff {session : Session} {viewer : ViewerId} :
    session.watchedBy viewer = true ↔ session.contains viewer = true ∧ session.state = .live := by
  simp [watchedBy]

theorem watchedBy_of_live {session : Session} (live : session.state = .live)
    (viewer : ViewerId) : session.watchedBy viewer = session.contains viewer := by
  simp [watchedBy, live]

theorem watchedBy_of_ne {session : Session} (silent : session.state ≠ .live)
    (viewer : ViewerId) : session.watchedBy viewer = false := by
  simp [watchedBy, silent]

/-- A viewer stands once in the list of viewers or not at all. -/
theorem Coherent.count_viewers {session : Session} (coherent : session.Coherent)
    (viewer : ViewerId) :
    (session.subscribers.map Subscriber.viewer).count viewer =
      if session.contains viewer then 1 else 0 := by
  rw [coherent.distinct.count]
  simp only [contains_iff]

/-- While a stream is running, all its viewers are announced. -/
theorem Coherent.announced_of_live {session : Session} (coherent : session.Coherent)
    (live : session.state = .live) :
    session.subscribers.filter Subscriber.announced = session.subscribers :=
  List.filter_eq_self.2 fun subscriber member => (coherent.announced subscriber member).2 live

end Session

namespace Turn

/-- A viewer that watches is told the payload. A viewer that begins to watch is told the start of
the stream, and what it missed of a stream that was running before. -/
def told (turn last : Turn) (catchUp : List Octets) (input : Input) (viewer : ViewerId) :
    List Message :=
  if turn.session.watchedBy viewer then
    (input.payload? turn.session.format).toList.map .frame
  else if last.session.watchedBy viewer then
    last.session.info.toList.map .start ++
      (if turn.session.state = .live then catchUp else []).map .frame
  else []

/-- A session tells a viewer what an input is about, and nothing else. -/
def Tells (turn last : Turn) (catchUp : List Octets) (input : Input) (viewer : ViewerId) : Prop :=
  streamedTo turn.session.format viewer last.effects =
    streamedTo turn.session.format viewer turn.effects ++ told turn last catchUp input viewer

/-- What is told about a stream belongs to it. -/
theorem told_isStreamed (turn last : Turn) (catchUp : List Octets) (input : Input)
    (viewer : ViewerId) :
    (told turn last catchUp input viewer).filter Message.isStreamed =
      told turn last catchUp input viewer := by
  refine List.filter_eq_self.2 fun message member => ?_
  unfold told at member
  split at member
  · obtain ⟨payload, -, rfl⟩ := List.mem_map.1 member
    rfl
  · split at member
    · rcases List.mem_append.1 member with start | missed
      · obtain ⟨info, -, rfl⟩ := List.mem_map.1 start
        rfl
      · obtain ⟨payload, -, rfl⟩ := List.mem_map.1 missed
        rfl
    · cases member

theorem Tells.of_messages {turn last : Turn} {catchUp : List Octets} {input : Input}
    {viewer : ViewerId} (messages : messagesTo turn.session.format viewer last.effects =
      messagesTo turn.session.format viewer turn.effects ++ told turn last catchUp input viewer) :
    Tells turn last catchUp input viewer := by
  rw [Tells, streamedTo, messages, List.filter_append, told_isStreamed, streamedTo]

/-- Nobody is told anything by an input without payload that nobody begins to watch by. -/
theorem Tells.nothing {turn last : Turn} {catchUp : List Octets} {input : Input}
    {viewer : ViewerId} (silent : input.payload? turn.session.format = none)
    (same : messagesTo turn.session.format viewer last.effects =
      messagesTo turn.session.format viewer turn.effects)
    (before : last.session.watchedBy viewer = true → turn.session.watchedBy viewer = true) :
    Tells turn last catchUp input viewer := by
  refine of_messages ?_
  rw [same, told, silent]
  cases watched : turn.session.watchedBy viewer with
  | true => exact (List.append_nil _).symm
  | false =>
      have after : last.session.watchedBy viewer = false :=
        Bool.eq_false_iff.2 fun now => Bool.false_ne_true (watched.symm.trans (before now))
      rw [after]
      exact (List.append_nil _).symm

theorem messagesTo_unsubscribe (turn : Turn) (gone : List ViewerId) (format : Format)
    (viewer : ViewerId) :
    messagesTo format viewer (turn.unsubscribe gone).2.effects =
      messagesTo format viewer turn.effects := by
  have left := unsubscribe_left turn gone
  generalize turn.unsubscribe gone = result at left
  cases left with
  | nobody | some | idle | starting => rfl
  | live => exact messagesTo_stopLive _ _ _

/-- A shutdown tells nobody anything, because the viewers are removed first. -/
theorem messagesTo_shutdown (turn : Turn) (outcome : Outcome) (viewer : ViewerId) :
    messagesTo turn.session.format viewer (turn.shutdown outcome).effects =
      messagesTo turn.session.format viewer turn.effects := by
  cases token : turn.session.token with
  | none =>
      rw [shutdown_settled token]
      split
      · exact messagesTo_stopLive _ _ _
      · rfl
  | some cancelled =>
      rw [shutdown_pending (by rw [token]; rfl)]
      exact ((turn.withSubscribers []).started_unwatched rfl outcome).2.2 viewer

theorem watchedBy_unsubscribe {turn : Turn} {gone : List ViewerId} {viewer : ViewerId}
    (watched : (turn.unsubscribe gone).2.session.watchedBy viewer = true) :
    turn.session.watchedBy viewer = true := by
  obtain ⟨member, live⟩ := Session.watchedBy_iff.1 watched
  exact Session.watchedBy_iff.2
    ⟨((contains_unsubscribe turn gone viewer).1 member).1, live_of_unsubscribe live⟩

namespace Tells

section

variable {turn : Turn} (coherent : turn.session.Coherent) (catchUp : List Octets)
  (viewer : ViewerId)

theorem unsubscribe (turn : Turn) (gone : List ViewerId) {input : Input}
    (silent : input.payload? turn.session.format = none) :
    Tells turn (turn.unsubscribe gone).2 catchUp input viewer :=
  nothing silent (messagesTo_unsubscribe turn gone _ viewer) watchedBy_unsubscribe

include coherent

theorem subscribe (other : ViewerId) {input : Input}
    (silent : input.payload? turn.session.format = none) :
    Tells turn (turn.subscribe other catchUp) catchUp input viewer := by
  have joined := coherent.subscribe_joined other catchUp
  generalize turn.subscribe other catchUp = last at joined
  cases joined with
  | starts idle =>
      refine nothing silent (by simp) fun watched => ?_
      cases (Session.watchedBy_iff.1 watched).2
  | waits starting =>
      refine nothing silent rfl fun watched => ?_
      cases starting.symm.trans (Session.watchedBy_iff.1 watched).2
  | stays => exact nothing silent rfl id
  | told live stranger info described =>
      have own : ({ turn with session := turn.session.join other } : Turn).session.format =
        turn.session.format := rfl
      have messages := messagesTo_announce own info catchUp viewer other
      have members : ({ turn with session := turn.session.join other }.announce info catchUp
          other).session.contains viewer = true ↔ turn.session.contains viewer = true ∨
            viewer = other := by
        rw [announce_session, Session.contains_iff, Session.viewers_markAnnounced,
          ← Session.contains_iff, contains_join]
      by_cases same : other = viewer
      · subst same
        refine of_messages (messages.trans ?_)
        have before : turn.session.watchedBy other = false := by
          rw [Session.watchedBy_of_live live, stranger]
        have after : ({ turn with session := turn.session.join other }.announce info catchUp
            other).session.watchedBy other = true :=
          Session.watchedBy_iff.2 ⟨members.2 (.inr rfl), by rw [announce_session]; exact live⟩
        rw [told, before, after, announce_session]
        simp [live, Session.markAnnounced, Session.join, described]
      · refine nothing silent ?_ fun watched => ?_
        · rw [messages, if_neg same, List.append_nil]
        · obtain ⟨member, -⟩ := Session.watchedBy_iff.1 watched
          exact Session.watchedBy_iff.2 ⟨(members.1 member).resolve_right (Ne.symm same), live⟩

theorem started (pending : turn.session.state = .starting) (outcome : Outcome) {input : Input}
    (silent : input.payload? turn.session.format = none) :
    Tells turn (turn.started outcome) catchUp input viewer := by
  have before : turn.session.watchedBy viewer = false :=
    Session.watchedBy_of_ne (by simp [pending]) viewer
  by_cases empty : turn.session.subscribers = []
  · obtain ⟨⟨lost, session⟩, -, messages⟩ := started_unwatched turn empty outcome
    refine nothing silent (messages viewer) fun watched => ?_
    rw [session] at watched
    cases (Session.watchedBy_iff.1 watched).2
  cases outcome with
  | live info =>
      obtain ⟨session, -, messages⟩ := started_live_watched empty info
      refine of_messages ?_
      have after : (turn.started (.live info)).session.watchedBy viewer =
          turn.session.contains viewer := by
        simp [session, Session.watchedBy, Session.contains, Function.comp_def]
      rw [messages, coherent.count_viewers, told, before, after, session]
      cases turn.session.contains viewer <;> simp [pending]
  | cancelled =>
      rw [started_cancelled_watched empty]
      refine nothing silent (by simp [messagesTo, Effect.message?]) fun watched => ?_
      cases (Session.watchedBy_iff.1 watched).2
  | failed fault =>
      obtain ⟨lost, gone, session, -, messages⟩ := started_failed turn fault
      have after : (turn.started (.failed fault)).session.watchedBy viewer = false := by
        rw [session]
        exact Session.watchedBy_of_ne (by simp) viewer
      rw [Tells, streamedTo, messages, List.filter_append, told, before, after]
      split <;> simp [streamedTo, Message.isStreamed]

theorem relay (live : turn.session.state = .live) (payload : Octets) {input : Input}
    (brings : input.payload? turn.session.format = some payload) :
    Tells turn (turn.relay payload).2 catchUp input viewer := by
  have watched := Session.watchedBy_of_live live viewer
  have after : (turn.relay payload).2.session.watchedBy viewer = true →
      turn.session.contains viewer = true := fun now =>
    contains_relay payload (Session.watchedBy_iff.1 now).1
  obtain ⟨offered, lost, gone, -, -, messages, relayed⟩ := relay_offered turn payload
  refine of_messages ?_
  rw [told, watched, brings]
  rw [relayed, messagesTo_unsubscribe, messages, coherent.announced_of_live live,
    coherent.count_viewers, ← relayed]
  cases member : turn.session.contains viewer with
  | true => rfl
  | false =>
      rw [member] at after
      rw [Bool.eq_false_iff.2 fun now => Bool.false_ne_true (after now)]
      rfl

theorem ended {input : Input} (silent : input.payload? turn.session.format = none)
    (live : turn.session.state = .live) : Tells turn turn.ended catchUp input viewer := by
  have settled : turn.session.state ≠ .starting := by simp [live]
  refine nothing silent ?_ fun watched => ?_
  · rw [ended_of_home (coherent.home_of_ne settled)]
    simp
  · cases (ended_state turn).symm.trans (Session.watchedBy_iff.1 watched).2

theorem shutdown (outcome : Outcome) {input : Input}
    (silent : input.payload? turn.session.format = none) :
    Tells turn (turn.shutdown outcome) catchUp input viewer := by
  have idle := (coherent.shutdown outcome).2.1
  refine nothing silent (messagesTo_shutdown turn outcome viewer) fun watched => ?_
  cases idle.symm.trans (Session.watchedBy_iff.1 watched).2

/-- Whatever the input, a viewer is told what it is about. -/
theorem handle (input : Input) :
    Tells turn (turn.handle catchUp input) catchUp input viewer := by
  cases input with
  | subscribe other format =>
      rw [Turn.handle]
      split
      · exact subscribe coherent catchUp viewer other rfl
      · exact unsubscribe catchUp viewer turn [other] rfl
  | unsubscribe other => exact unsubscribe catchUp viewer turn [other] rfl
  | started format outcome =>
      rw [Turn.handle]
      split
      case isTrue own =>
        exact started coherent catchUp viewer (coherent.away.1 own.2) outcome rfl
      case isFalse => exact nothing rfl rfl id
  | event format event =>
      cases event with
      | data payload =>
          rw [Turn.handle]
          split
          case isTrue own =>
            exact relay coherent catchUp viewer (coherent.listening.1 own.2) payload
              (if_pos own.1)
          case isFalse other =>
            cases watched : turn.session.watchedBy viewer with
            | true =>
                have listening := coherent.listening.2 (Session.watchedBy_iff.1 watched).2
                exact nothing (if_neg fun own => other ⟨own, listening⟩) rfl id
            | false =>
                refine of_messages ?_
                rw [told, watched]
                exact (List.append_nil _).symm
      | ended reason =>
          rw [Turn.handle]
          split
          case isTrue own =>
            exact ended coherent catchUp viewer rfl (coherent.listening.1 own.2)
          case isFalse => exact nothing rfl rfl id
  | shutdown h264 jpeg => exact shutdown coherent catchUp viewer _ rfl
  | receive | close => exact nothing rfl rfl id

end

end Tells

theorem info_subscribe {turn : Turn} (coherent : turn.session.Coherent) (viewer : ViewerId)
    (catchUp : List Octets) :
    (turn.subscribe viewer catchUp).session.info = turn.session.info := by
  have joined := coherent.subscribe_joined viewer catchUp
  generalize turn.subscribe viewer catchUp = last at joined
  cases joined with
  | starts | waits | stays => rfl
  | told =>
      rw [announce_session]
      rfl

/-- Only a successful outcome begins a stream, which it describes. -/
theorem info_started {turn : Turn} {outcome : Outcome}
    (live : (turn.started outcome).session.state = .live) :
    ∃ info, outcome = .live info ∧ (turn.started outcome).session.info = some info := by
  by_cases empty : turn.session.subscribers = []
  · obtain ⟨⟨lost, session⟩, -, -⟩ := started_unwatched turn empty outcome
    rw [session] at live
    cases live
  cases outcome with
  | live info =>
      obtain ⟨session, -, -⟩ := started_live_watched empty info
      exact ⟨info, rfl, by rw [session]⟩
  | cancelled =>
      rw [started_cancelled_watched empty] at live
      cases live
  | failed fault =>
      obtain ⟨lost, gone, session, -, -⟩ := started_failed turn fault
      rw [session] at live
      cases live

/-- A stream is described by the outcome that began it, and keeps its description. -/
theorem info_handle {turn : Turn} (coherent : turn.session.Coherent) (catchUp : List Octets)
    (input : Input) (live : (turn.handle catchUp input).session.state = .live) :
    (turn.handle catchUp input).session.info =
      if turn.session.state = .live then turn.session.info
      else input.description? turn.session.format := by
  have kept {last : Turn} (running : turn.session.state = .live)
      (same : last.session.info = turn.session.info) : last.session.info =
        if turn.session.state = .live then turn.session.info
        else input.description? turn.session.format := by
    rw [if_pos running, same]
  have left (gone : List ViewerId) (live : (turn.unsubscribe gone).2.session.state = .live) :=
    kept (live_of_unsubscribe live) (info_unsubscribe live)
  cases input with
  | subscribe viewer format =>
      rw [handle] at live ⊢
      split at live
      case isTrue own =>
        rw [if_pos own]
        exact kept ((coherent.subscribe_live viewer catchUp).1 live)
          (info_subscribe coherent viewer catchUp)
      case isFalse other =>
        rw [if_neg other]
        exact left [viewer] live
  | unsubscribe viewer => exact left [viewer] live
  | started format outcome =>
      rw [handle] at live ⊢
      split at live
      case isTrue own =>
        have silent : turn.session.state ≠ .live := by simp [coherent.away.1 own.2]
        obtain ⟨info, rfl, described⟩ := info_started live
        rw [if_pos own, if_neg silent, described]
        exact (if_pos own.1).symm
      case isFalse other =>
        rw [if_neg other]
        exact kept live rfl
  | event format event =>
      cases event with
      | data payload =>
          rw [handle] at live ⊢
          split at live
          case isTrue own =>
            rw [if_pos own]
            obtain ⟨offered, lost, gone, session, -, -, relayed⟩ := relay_offered turn payload
            rw [relayed] at live ⊢
            refine kept (coherent.listening.1 own.2) ?_
            rw [info_unsubscribe live, session]
          case isFalse other =>
            rw [if_neg other]
            exact kept live rfl
      | ended reason =>
          rw [handle] at live ⊢
          split at live
          case isTrue own => cases (ended_state turn).symm.trans live
          case isFalse other =>
            rw [if_neg other]
            exact kept live rfl
  | shutdown h264 jpeg => cases (coherent.shutdown _).2.1.symm.trans live
  | receive | close => exact kept live rfl

end Turn

end Screencast.Broadcast
