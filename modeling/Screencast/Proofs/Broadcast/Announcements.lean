/-
This file relates the payloads in the queue of a viewer to the start messages of their streams. A
start message is offered before the payloads, but a full queue may lose it.
-/

import Screencast.Proofs.Broadcast.Blocks
import Screencast.Proofs.Broadcast.Calls
import Screencast.Proofs.Broadcast.Deliveries

namespace Screencast.Broadcast

section Histories

variable {format : Format} {viewer : ViewerId} {effects added : List Effect}

/-- Every message was offered with some effect, whatever became of it. -/
theorem mem_messagesTo {message : Message} :
    message ∈ messagesTo format viewer effects ↔
      ∃ delivery, .offer format viewer message delivery ∈ effects := by
  rw [messagesTo, List.mem_filterMap]
  constructor
  · rintro ⟨effect, member, offered⟩
    cases effect with
    | call => cases offered
    | offer own other sent delivery =>
        simp only [Effect.message?, Option.ite_none_right_eq_some, Option.some.injEq] at offered
        obtain ⟨⟨rfl, rfl⟩, rfl⟩ := offered
        exact ⟨delivery, member⟩
  · rintro ⟨delivery, member⟩
    exact ⟨_, member, if_pos ⟨rfl, rfl⟩⟩

theorem streamedTo_frame (format : Format) (viewer : ViewerId) (payload : Octets)
    (delivery : Delivery) (after : List Effect) :
    streamedTo format viewer (.offer format viewer (.frame payload) delivery :: after) =
      .frame payload :: streamedTo format viewer after := by
  simp only [streamedTo, messagesTo, List.filterMap_cons, Effect.message?, and_self, if_true]
  exact List.filter_cons_of_pos rfl

/-- The source was not called since this call. -/
theorem split_of_last_call {call : SourceCall}
    (last : (callsOf format effects).getLast? = some call) :
    ∃ former latter, effects = former ++ .call format call :: latter ∧
      callsOf format latter = [] := by
  obtain ⟨calls, ends⟩ := List.getLast?_eq_some_iff.1 last
  obtain ⟨former, rest, rfl, -, sent⟩ := List.filterMap_eq_append_iff.1 ends
  obtain ⟨skipped, effect, latter, rfl, -, called, silent⟩ := List.filterMap_eq_cons_iff.1 sent
  cases effect with
  | offer => cases called
  | call own request =>
      simp only [Effect.call?, Option.ite_none_right_eq_some, Option.some.injEq] at called
      obtain ⟨rfl, rfl⟩ := called
      exact ⟨former ++ skipped, latter, by rw [List.append_assoc], silent⟩

/-- Since its source was started last, the stream was announced to a viewer. -/
def Announced (format : Format) (viewer : ViewerId) (effects : List Effect) : Prop :=
  ∃ former latter info answer, effects = former ++ .call format .start :: latter ∧
    callsOf format latter = [] ∧ .offer format viewer (.start info) answer ∈ latter

theorem Announced.append (announced : Announced format viewer effects)
    (silent : callsOf format added = []) : Announced format viewer (effects ++ added) := by
  obtain ⟨former, latter, info, answer, rfl, quiet, offered⟩ := announced
  refine ⟨former, latter ++ added, info, answer, by simp, ?_, List.mem_append_left _ offered⟩
  rw [callsOf_append, quiet, silent]
  rfl

theorem announced_of_mem (started : (callsOf format effects).getLast? = some .start)
    {info : StartInfo} (told : .start info ∈ streamedTo format viewer added)
    (silent : callsOf format added = []) : Announced format viewer (effects ++ added) := by
  obtain ⟨former, latter, rfl, quiet⟩ := split_of_last_call started
  obtain ⟨answer, offered⟩ := mem_messagesTo.1 (List.mem_filter.1 told).1
  refine ⟨former, latter ++ added, info, answer, by simp, ?_, List.mem_append_right _ offered⟩
  rw [callsOf_append, quiet, silent]
  rfl

end Histories

namespace Turn

/-- In its turn, a session tells its viewers about the stream before it calls its source. When the
stream is running after the turn, the source was not called in it. -/
def Orderly (turn last : Turn) : Prop :=
  ∃ offers rest, last.effects = offers ++ rest ∧ callsOf turn.session.format offers = [] ∧
    (∀ viewer, streamedTo turn.session.format viewer rest = []) ∧
    (last.session.state = .live → rest = [])

namespace Orderly

variable {turn last : Turn}

theorem ofSilent (silent : callsOf turn.session.format last.effects = []) : Orderly turn last :=
  ⟨last.effects, [], (List.append_nil _).symm, silent, fun _ => rfl, fun _ => rfl⟩

theorem ofQuiet (quiet : ∀ viewer, streamedTo turn.session.format viewer last.effects = [])
    (still : last.session.state ≠ .live) : Orderly turn last :=
  ⟨[], last.effects, rfl, rfl, quiet, fun live => absurd live still⟩

section

variable (fresh : turn.effects = [])

include fresh

theorem ofMessages (messages : ∀ viewer, messagesTo turn.session.format viewer last.effects =
    messagesTo turn.session.format viewer turn.effects)
    (still : last.session.state ≠ .live) : Orderly turn last := by
  refine ofQuiet (fun viewer => ?_) still
  rw [streamedTo, messages, fresh]
  rfl

theorem ofCalls (calls : callsOf turn.session.format last.effects =
    callsOf turn.session.format turn.effects) : Orderly turn last := by
  refine ofSilent ?_
  rw [calls, fresh]
  rfl

theorem unsubscribe (gone : List ViewerId) : Orderly turn (turn.unsubscribe gone).2 := by
  have messages := fun viewer => messagesTo_unsubscribe turn gone turn.session.format viewer
  have left := unsubscribe_left turn gone
  generalize turn.unsubscribe gone = result at left messages
  cases left with
  | nobody | some | idle | starting => exact ofCalls fresh rfl
  | live => exact ofMessages fresh messages (by simp)

theorem subscribe (coherent : turn.session.Coherent) (viewer : ViewerId)
    (catchUp : List Octets) : Orderly turn (turn.subscribe viewer catchUp) := by
  have joined := coherent.subscribe_joined viewer catchUp
  generalize turn.subscribe viewer catchUp = last at joined
  cases joined with
  | starts => exact ofMessages fresh (fun other => by simp) (by simp)
  | waits | stays => exact ofCalls fresh rfl
  | told => exact ofCalls fresh (callsOf_announce _ _ _ _ _)

theorem started (outcome : Outcome) : Orderly turn (turn.started outcome) := by
  by_cases empty : turn.session.subscribers = []
  · obtain ⟨⟨lost, session⟩, -, messages⟩ := turn.started_unwatched empty outcome
    exact ofMessages fresh messages (by simp [session])
  cases outcome with
  | live info => exact ofCalls fresh ((started_live_watched empty info).2.1 _)
  | cancelled =>
      rw [started_cancelled_watched empty]
      exact ofMessages fresh (fun viewer => by simp [messagesTo, Effect.message?]) (by simp)
  | failed fault =>
      obtain ⟨lost, gone, session, -, messages⟩ := started_failed turn fault
      refine ofQuiet (fun viewer => ?_) (by simp [session])
      rw [streamedTo, messages, fresh]
      split <;> simp [Message.isStreamed]

/-- A stream may be stopped after a payload, when all its viewers are found closed. -/
theorem relay (coherent : turn.session.Coherent) (live : turn.session.state = .live)
    (payload : Octets) : Orderly turn (turn.relay payload).2 := by
  obtain ⟨offered, lost, gone, session, calls, -, relayed⟩ := relay_offered turn payload
  have silent : callsOf turn.session.format offered.effects = [] := by
    rw [calls, fresh]
    rfl
  have left := unsubscribe_left offered gone
  rw [relayed]
  generalize offered.session.subscribers.filter (fun subscriber =>
    decide (subscriber.viewer ∉ gone)) = rest at left
  generalize offered.unsubscribe gone = result at left
  cases left with
  | nobody | some | idle | starting => exact ofSilent silent
  | live =>
      have home : offered.session.sourceHome = true := by
        rw [session]
        exact coherent.home_of_ne (by simp [live])
      rw [stopLive_of_home (offered.withSubscribers rest) home]
      exact ⟨offered.effects, _, rfl, silent, fun viewer => rfl, fun live => by cases live⟩

theorem ended (coherent : turn.session.Coherent) (live : turn.session.state = .live) :
    Orderly turn turn.ended := by
  refine ofMessages fresh (fun viewer => ?_) (by simp [ended_state])
  rw [ended_of_home (coherent.home_of_ne (by simp [live]))]
  simp

theorem shutdown (coherent : turn.session.Coherent) (outcome : Outcome) :
    Orderly turn (turn.shutdown outcome) := by
  have idle := (coherent.shutdown outcome).2.1
  exact ofMessages fresh (messagesTo_shutdown turn outcome) (by simp [idle])

/-- Every input makes for an orderly turn. -/
theorem handle (coherent : turn.session.Coherent) (catchUp : List Octets) (input : Input) :
    Orderly turn (turn.handle catchUp input) := by
  have same : Orderly turn turn := ofCalls fresh rfl
  cases input with
  | subscribe viewer format =>
      rw [Turn.handle]
      split
      · exact subscribe fresh coherent viewer catchUp
      · exact unsubscribe fresh [viewer]
  | unsubscribe viewer => exact unsubscribe fresh [viewer]
  | started format outcome =>
      rw [Turn.handle]
      split
      · exact started fresh outcome
      · exact same
  | event format event =>
      cases event with
      | data payload =>
          rw [Turn.handle]
          split
          case isTrue own => exact relay fresh coherent (coherent.listening.1 own.2) payload
          case isFalse => exact same
      | ended reason =>
          rw [Turn.handle]
          split
          case isTrue own => exact ended fresh coherent (coherent.listening.1 own.2)
          case isFalse => exact same
  | shutdown h264 jpeg => exact shutdown fresh coherent _
  | receive | close => exact same

end

end Orderly

end Turn

namespace Scene

variable {scene : Scene} {format : Format} {viewer : ViewerId}

/-- In a step, a session tells its viewers about the stream before it calls its source. -/
theorem orderly_step (coherent : scene.Coherent) (format : Format) (input : Input) :
    ∃ offers rest, effectsOf format (scene.step input).2 = offers ++ rest ∧
      callsOf format offers = [] ∧ (∀ viewer, streamedTo format viewer rest = []) ∧
      ((scene.step input).1.isLive format = true → rest = []) := by
  cases isOpen : scene.station.isOpen with
  | false =>
      rw [(step_of_closed isOpen input).2]
      exact ⟨[], [], rfl, rfl, fun _ => rfl, fun _ => rfl⟩
  | true =>
      have own : (scene.turn format).session.format = format := coherent.sorted format
      have shows := step_shows coherent.sorted isOpen input format
      have orderly : Turn.Orderly (scene.turn format) _ :=
        .handle rfl (coherent.sessions format) (scene.catchUp format) input
      rw [Turn.Orderly, own, ← shows.session, ← shows.effects] at orderly
      obtain ⟨offers, rest, effects, silent, quiet, lasting⟩ := orderly
      exact ⟨offers, rest, effects, silent, quiet, fun live => lasting (of_decide_eq_true live)⟩

/-- A session that is live after a step has not called its source in it. -/
theorem callsOf_step_of_live (coherent : scene.Coherent) {input : Input}
    (live : (scene.step input).1.isLive format = true) :
    callsOf format (scene.step input).2 = [] := by
  obtain ⟨offers, rest, effects, silent, -, lasting⟩ := orderly_step coherent format input
  rw [← callsOf_effectsOf, effects, lasting live, List.append_nil]
  exact silent

/-- No session calls its source before a payload of the same step. -/
theorem callsOf_before_frame (coherent : scene.Coherent) {input : Input}
    {before after : List Effect} {payload : Octets} {delivery : Delivery}
    (step : (scene.step input).2 =
      before ++ .offer format viewer (.frame payload) delivery :: after) :
    callsOf format before = [] := by
  obtain ⟨offers, rest, effects, silent, quiet, -⟩ := orderly_step coherent format input
  rw [step, effectsOf_append] at effects
  rcases List.append_eq_append_iff.1 effects with ⟨more, offered, -⟩ | ⟨more, -, told⟩
  · rw [offered, callsOf_append, callsOf_effectsOf] at silent
    exact (List.append_eq_nil_iff.1 silent).1
  · have streamed := quiet viewer
    rw [told, streamedTo_append, streamedTo_effectsOf, streamedTo_frame] at streamed
    simp at streamed

/-- A viewer that begins to watch is told the start of the stream first. It missed something only if
the stream was running before. -/
theorem streamedTo_of_joins (coherent : scene.Coherent) {input : Input}
    (unwatched : scene.watches format viewer = false)
    (watches : (scene.step input).1.watches format viewer = true) :
    ∃ info, streamedTo format viewer (scene.step input).2 =
      .start info :: (if scene.isLive format then scene.missed format else []).map .frame := by
  obtain ⟨info, described⟩ := Option.isSome_iff_exists.1
    (((coherent.step input).sessions format).described.2 (Session.watchedBy_iff.1 watches).2)
  have streamed : streamedTo format viewer (scene.step input).2 = _ :=
    streamedTo_record coherent format viewer input
  rw [unwatched, if_neg Bool.false_ne_true, if_pos watches, described] at streamed
  exact ⟨info, streamed⟩

/-- A viewer that watches was told the start of the stream, and each payload that it was offered
came later. -/
structure Introducing (scene : Scene) (format : Format) (viewer : ViewerId)
    (effects : List Effect) : Prop where
  watching : scene.watches format viewer = true → Announced format viewer effects
  frames : ∀ before payload delivery after,
    effects = before ++ .offer format viewer (.frame payload) delivery :: after →
      Announced format viewer before

namespace Introducing

variable {effects : List Effect} (introducing : scene.Introducing format viewer effects)
  (coherent : scene.Coherent) (input : Input)

include introducing coherent

theorem watching_step (started : (callsOf format (effects ++ (scene.step input).2)).getLast? =
      some .start)
    (watches : (scene.step input).1.watches format viewer = true) :
    Announced format viewer (effects ++ (scene.step input).2) := by
  have live := (Session.watchedBy_iff.1 watches).2
  have silent : callsOf format (scene.step input).2 = [] :=
    callsOf_step_of_live coherent (decide_eq_true live)
  cases before : scene.watches format viewer with
  | true => exact (introducing.watching before).append silent
  | false =>
      obtain ⟨info, streamed⟩ := streamedTo_of_joins coherent before watches
      have told : .start info ∈ streamedTo format viewer (scene.step input).2 := by
        rw [streamed]
        exact List.mem_cons_self
      rw [callsOf_append, silent, List.append_nil] at started
      exact announced_of_mem started told silent

theorem frames_step (started : scene.isLive format = true →
      (callsOf format effects).getLast? = some .start)
    {before after : List Effect} {payload : Octets} {delivery : Delivery}
    (step : (scene.step input).2 =
      before ++ .offer format viewer (.frame payload) delivery :: after) :
    Announced format viewer (effects ++ before) := by
  have silent := callsOf_before_frame coherent step
  cases watched : scene.watches format viewer with
  | true => exact (introducing.watching watched).append silent
  | false =>
      have told : streamedTo format viewer (scene.step input).2 =
          streamedTo format viewer before ++ .frame payload :: streamedTo format viewer after := by
        rw [step, streamedTo_append, streamedTo_frame]
      cases watches : (scene.step input).1.watches format viewer with
      | false =>
          have nothing : streamedTo format viewer (scene.step input).2 = _ :=
            streamedTo_record coherent format viewer input
          simp [told, watched, watches] at nothing
      | true =>
          obtain ⟨info, streamed⟩ := streamedTo_of_joins coherent watched watches
          rw [told] at streamed
          -- The first message that the viewer is told is the start, so the payload comes later.
          cases first : streamedTo format viewer before with
          | nil =>
              rw [first] at streamed
              cases (List.cons.inj streamed).1
          | cons message others =>
              rw [first] at streamed
              obtain ⟨rfl, missed⟩ := List.cons.inj streamed
              have start : .start info ∈ streamedTo format viewer before := by
                rw [first]
                exact List.mem_cons_self
              have live : scene.isLive format = true := by
                by_contra quiet
                simp [quiet] at missed
              exact announced_of_mem (started live) start silent

theorem step (started : scene.isLive format = true →
      (callsOf format effects).getLast? = some .start)
    (restarted : (scene.step input).1.isLive format = true →
      (callsOf format (effects ++ (scene.step input).2)).getLast? = some .start) :
    (scene.step input).1.Introducing format viewer (effects ++ (scene.step input).2) where
  watching watches := introducing.watching_step coherent input
    (restarted (decide_eq_true (Session.watchedBy_iff.1 watches).2)) watches
  frames before payload delivery after split := by
    -- The payload is offered in this step, or it was offered before.
    rcases List.append_eq_append_iff.1 split with ⟨more, rfl, new⟩ | ⟨more, earlier, rest⟩
    · exact introducing.frames_step coherent input started new
    · cases more with
      | nil =>
          obtain rfl : effects = before := by simpa using earlier
          have first : Announced format viewer (effects ++ []) :=
            introducing.frames_step coherent input started rest.symm
          rwa [List.append_nil] at first
      | cons effect others =>
          obtain ⟨rfl, -⟩ := List.cons.inj rest
          exact introducing.frames before payload delivery others earlier

end Introducing

/-- When a stream is running, its source was started last. -/
theorem Balanced.last_start {past : List Step} (balanced : scene.Balanced format past)
    (live : scene.isLive format = true) :
    (callsOf format (past.flatMap Step.effects)).getLast? = some .start := by
  have state : (scene.station.session format).state = .live := of_decide_eq_true live
  have alternating := balanced.alternating
  rw [Session.nextCall, if_neg (by simp [state])] at alternating
  exact alternating.last_start

theorem Introducing.run (serial : String) (mail : Mailboxes) (inputs : List Input)
    (format : Format) (viewer : ViewerId) :
    ((opened serial mail).run inputs).1.Introducing format viewer
      ((opened serial mail).run inputs).2 := by
  have first : (opened serial mail).Coherent ∧ (opened serial mail).Balanced format [] ∧
      (opened serial mail).Introducing format viewer [] := by
    refine ⟨Coherent.opened serial mail, Balanced.opened serial mail format, ?_, by simp⟩
    cases format <;> simp [opened, watches, Session.watchedBy, Station.session]
  rw [run_effects]
  refine (run_induction (fun scene past => scene.Coherent ∧ scene.Balanced format past ∧
      scene.Introducing format viewer (past.flatMap Step.effects))
    (fun scene past input held => ?_) [] first inputs).2.2
  obtain ⟨coherent, balanced, introducing⟩ := held
  refine ⟨coherent.step input, balanced.step coherent input, ?_⟩
  rw [List.flatMap_append, List.flatMap_singleton]
  have restarted := (balanced.step coherent input).last_start
  rw [List.flatMap_append, List.flatMap_singleton] at restarted
  exact introducing.step coherent input balanced.last_start restarted

end Scene

/-- For each payload in the queue of a viewer, the start message was offered to the viewer after the
source was started last, and the queue gave one of these answers. -/
def Introduced (format : Format) (viewer : ViewerId) (answers : List Delivery)
    (effects : List Effect) : Prop :=
  ∀ before payload after,
    effects = before ++ .offer format viewer (.frame payload) .sent :: after →
      ∃ former latter info answer, before = former ++ .call format .start :: latter ∧
        callsOf format latter = [] ∧ .offer format viewer (.start info) answer ∈ latter ∧
        answer ∈ answers

/-- A full queue loses the start of a stream. -/
def Effect.losesStart (format : Format) (viewer : ViewerId) : Effect → Bool
  | .offer own other (.start _) .dropped => own = format && other = viewer
  | _ => false

namespace Scene

/-- In every run, a viewer that finds a payload in its queue was told the start of the same stream
before: it is in the queue too unless the queue was full. The stream goes on nevertheless, because a
session does not look at the answer. -/
theorem frames_introduced (serial : String) (mail : Mailboxes) (inputs : List Input)
    (format : Format) (viewer : ViewerId) :
    let effects := ((opened serial mail).run inputs).2
    Introduced format viewer [.sent, .dropped] effects ∧
      ((∀ effect ∈ effects, effect.losesStart format viewer = false) →
        Introduced format viewer [.sent] effects) := by
  intro effects
  have introduced : Introduced format viewer [.sent, .dropped] effects := by
    intro before payload after split
    obtain ⟨former, latter, info, answer, rfl, silent, offered⟩ :=
      (Introducing.run serial mail inputs format viewer).frames before payload .sent after split
    refine ⟨former, latter, info, answer, rfl, silent, offered, ?_⟩
    -- A queue that is closed at the start takes no payload later.
    have ordered := (Refusing.run (opened serial mail) inputs).ordered
    change effects.Pairwise _ at ordered
    rw [split] at ordered
    have later := (List.pairwise_append.1 ordered).2.2 _
      (List.mem_append_right former (List.mem_cons_of_mem _ offered)) _ List.mem_cons_self viewer
    cases answer with
    | sent => exact List.mem_cons_self
    | dropped => exact List.mem_cons_of_mem _ List.mem_cons_self
    | closed => exact absurd (if_pos rfl) (later (if_pos rfl))
  refine ⟨introduced, fun roomy before payload after split => ?_⟩
  obtain ⟨former, latter, info, answer, rfl, silent, offered, among⟩ :=
    introduced before payload after split
  have known : .offer format viewer (.start info) answer ∈ effects := by
    rw [split]
    exact List.mem_append_left _ (List.mem_append_right former (List.mem_cons_of_mem _ offered))
  have sent : answer = .sent := by
    rcases List.mem_pair.1 among with rfl | rfl
    · rfl
    · simpa [Effect.losesStart] using roomy _ known
  exact ⟨former, latter, info, answer, rfl, silent, offered, List.mem_singleton.2 sent⟩

/-- A viewer with a roomy queue finds the start of the second stream before its payload. -/
theorem frames_introduced_roomy :
    Introduced .h264 "viewer" [.sent] ((opened "device" ⟨[("viewer", .create 8)]⟩).run
      [.subscribe "viewer" .h264, .started .h264 (.live (.h264 720 1280 "phone")),
        .event .h264 (.ended none), .subscribe "viewer" .h264,
        .started .h264 (.live (.h264 1280 720 "phone")),
        .event .h264 (.data [0, 0, 1, 0x41, 2])]).2 :=
  (frames_introduced "device" ⟨[("viewer", .create 8)]⟩ _ .h264 "viewer").2 (by decide +kernel)

/-- The start of the second stream finds the queue full. The viewer then takes what it has, and a
payload of that stream finds room. -/
theorem frames_introduced_full :
    ¬ Introduced .h264 "viewer" [.sent] ((opened "device" ⟨[("viewer", .create 1)]⟩).run
      [.subscribe "viewer" .h264, .started .h264 (.live (.h264 720 1280 "phone")),
        .event .h264 (.ended none), .subscribe "viewer" .h264,
        .started .h264 (.live (.h264 1280 720 "phone")), .receive "viewer" 1,
        .event .h264 (.data [0, 0, 1, 0x41, 2])]).2 := by
  intro introduced
  obtain ⟨former, latter, info, answer, split, silent, offered, sent⟩ := introduced
    [.call .h264 .start, .offer .h264 "viewer" (.start (.h264 720 1280 "phone")) .sent,
      .call .h264 .stop, .call .h264 .start,
      .offer .h264 "viewer" (.start (.h264 1280 720 "phone")) .dropped]
    [0, 0, 1, 0x41, 2] [] (by decide +kernel)
  -- The source is started twice, and nothing after the second start was put into the queue.
  simp only [List.cons_eq_append_iff, List.cons.injEq, true_and, reduceCtorEq, false_and,
    and_false, Effect.call.injEq, List.nil_eq, List.append_eq_nil_iff, exists_const, or_self,
    or_false, ↓existsAndEq, false_or] at split
  rcases split with ⟨-, rfl⟩ | ⟨-, rfl⟩
  · cases silent
  · simp only [List.mem_singleton, Effect.offer.injEq] at offered sent
    cases offered.2.2.2.symm.trans sent

end Scene

end Screencast.Broadcast
