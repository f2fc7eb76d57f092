/-
This file takes a step of a station apart into what each session does with the input.
-/

import Screencast.Broadcast.Station
import Screencast.Proofs.Broadcast.Continuation

namespace Screencast.Broadcast

namespace Format

/-- This is the first value for the recorder's stream and the second for the grabber's images. -/
def choose {Value : Type} : Format → Value → Value → Value
  | .h264, first, _ => first
  | .jpeg, _, second => second

theorem other_ne (format : Format) : format.other ≠ format := by cases format <;> decide

@[simp] theorem other_other (format : Format) : format.other.other = format := by
  cases format <;> rfl

theorem eq_other_of_ne {first second : Format} (distinct : first ≠ second) :
    first = second.other := by
  cases first <;> cases second <;> first | rfl | exact absurd rfl distinct

end Format

namespace Turn

/-- This is what a session does with an input of its station. -/
def handle (turn : Turn) (catchUp : List Octets) : Input → Turn
  | .subscribe viewer format =>
      if format = turn.session.format then turn.subscribe viewer catchUp
      else (turn.unsubscribe [viewer]).2
  | .unsubscribe viewer => (turn.unsubscribe [viewer]).2
  | .started format outcome =>
      if format = turn.session.format ∧ turn.session.sourceHome = false then turn.started outcome
      else turn
  | .event format (.data payload) =>
      if format = turn.session.format ∧ turn.session.listening = true then (turn.relay payload).2
      else turn
  | .event format (.ended _) =>
      if format = turn.session.format ∧ turn.session.listening = true then turn.ended else turn
  | .shutdown h264 jpeg =>
      turn.shutdown (turn.session.format.choose h264 jpeg)
  | .receive .. | .close .. => turn

theorem Continues.handle (turn : Turn) (catchUp : List Octets) (input : Input) :
    Continues turn (turn.handle catchUp input) := by
  cases input with
  | subscribe viewer format =>
      rw [Turn.handle]
      split
      · exact subscribe _ _ _
      · exact unsubscribe _ _
  | unsubscribe viewer => exact unsubscribe _ _
  | started format outcome =>
      rw [Turn.handle]
      split
      · exact started _ _
      · exact refl _
  | event format event =>
      cases event with
      | data payload =>
          rw [Turn.handle]
          split
          · exact relay _ _
          · exact refl _
      | ended reason =>
          rw [Turn.handle]
          split
          · exact ended _
          · exact refl _
  | shutdown h264 jpeg => exact shutdown _ _
  | receive | close => exact refl _

@[simp] theorem unsubscribe_mail (turn : Turn) (gone : List ViewerId) :
    (turn.unsubscribe gone).2.mail = turn.mail := by
  have left := unsubscribe_left turn gone
  generalize turn.unsubscribe gone = result at left
  cases left with
  | nobody | some | idle | starting => rfl
  | live => exact stopLive_mail _

/-- A shutdown offers nothing, because the viewers are removed first. -/
@[simp] theorem shutdown_mail (turn : Turn) (outcome : Outcome) :
    (turn.shutdown outcome).mail = turn.mail := by
  cases token : turn.session.token with
  | none =>
      rw [shutdown_settled token]
      split
      · exact stopLive_mail _
      · rfl
  | some cancelled =>
      rw [shutdown_pending (by rw [token]; rfl)]
      cases outcome with
      | live info =>
          rw [started_live_unwatched rfl]
          rfl
      | cancelled =>
          rw [started_cancelled_unwatched rfl]
          rfl
      | failed fault =>
          simp only [started, call, deliver, withSubscribers, List.map_nil, List.foldl_nil]
          split
          · exact unsubscribe_mail _ _
          · rfl

end Turn

namespace Station

theorem session_setSession (station : Station) (session : Session) (own format : Format) :
    (station.setSession session own).session format =
      if own = format then session else station.session format := by
  cases own <;> cases format <;> rfl

end Station

namespace Scene

/-- Each session has the format under which it is found. -/
def Sorted (scene : Scene) : Prop :=
  ∀ format, (scene.station.session format).format = format

/-- The store is no part of a session. -/
@[simp] theorem clearStore_session (scene : Scene) (format : Format) :
    scene.clearStore.station.session format = scene.station.session format := by
  cases format <;> rfl

theorem apply_session (scene : Scene) (own format : Format) (turn : Turn) :
    (scene.apply own turn).station.session format =
      if own = format then turn.session else scene.station.session format :=
  Station.session_setSession _ _ _ _

theorem leave_session (scene : Scene) (own format : Format) (viewer : ViewerId) :
    (scene.leave own viewer).1.station.session format =
      if own = format then ((scene.turn own).unsubscribe [viewer]).2.session
      else scene.station.session format := by
  unfold leave
  dsimp only
  split <;> simp only [clearStore_session, apply_session]

theorem leave_effects (scene : Scene) (own : Format) (viewer : ViewerId) :
    (scene.leave own viewer).2 = ((scene.turn own).unsubscribe [viewer]).2.effects := rfl

/-- The queues do not change when a viewer leaves. -/
theorem leave_turn_other (scene : Scene) (own : Format) (viewer : ViewerId) :
    (scene.leave own viewer).1.turn own.other = scene.turn own.other := by
  have session := leave_session scene own own.other viewer
  rw [if_neg own.other_ne.symm] at session
  have mail : (scene.leave own viewer).1.mail = scene.mail := by
    unfold leave
    dsimp only
    split
    · exact Turn.unsubscribe_mail (scene.turn own) [viewer]
    · exact Turn.unsubscribe_mail (scene.turn own) [viewer]
  simp only [turn, session, mail]

/-- A viewer that leaves the other format does not change what a late viewer of this one needs. -/
theorem leave_catchUp_other (scene : Scene) (own : Format) (viewer : ViewerId) :
    (scene.leave own viewer).1.catchUp own.other = scene.catchUp own.other := by
  cases own with
  | h264 => rfl
  | jpeg => simp [leave, catchUp, Format.other, apply, Station.setSession]

theorem relay_session (scene : Scene) (own format : Format) (payload : Octets) :
    (scene.relay own payload).1.station.session format =
      if own = format then ((scene.turn own).relay payload).2.session
      else scene.station.session format := by
  cases own with
  | h264 =>
      unfold relay
      dsimp only
      split
      · rw [clearStore_session, apply_session]
        cases format <;> rfl
      · rw [apply_session]
        cases format <;> rfl
  | jpeg =>
      simp only [relay, reduceCtorEq, decide_false, Bool.and_false, Bool.false_eq_true, if_false]
      exact apply_session _ _ _ _

theorem relay_effects (scene : Scene) (own : Format) (payload : Octets) :
    (scene.relay own payload).2 = ((scene.turn own).relay payload).2.effects := by
  cases own <;> rfl

@[simp] theorem forget_turn (scene : Scene) (own format : Format) :
    (scene.forget own).turn format = scene.turn format := by
  cases own <;> cases format <;> rfl

@[simp] theorem forget_session (scene : Scene) (own format : Format) :
    (scene.forget own).station.session format = scene.station.session format := by
  cases own <;> cases format <;> rfl

end Scene

/-- These are the effects of the session of one format. -/
def effectsOf (format : Format) (effects : List Effect) : List Effect :=
  effects.filter fun effect => effect.format = format

@[simp] theorem effectsOf_append (format : Format) (first second : List Effect) :
    effectsOf format (first ++ second) = effectsOf format first ++ effectsOf format second :=
  List.filter_append ..

theorem callsOf_effectsOf (format : Format) (effects : List Effect) :
    callsOf format (effectsOf format effects) = callsOf format effects := by
  rw [callsOf, callsOf, effectsOf, List.filterMap_filter]
  congr 1
  funext effect
  cases effect with
  | call own call => by_cases same : own = format <;> simp [Effect.format, Effect.call?, same]
  | offer => simp [Effect.call?]

theorem messagesTo_effectsOf (format : Format) (viewer : ViewerId) (effects : List Effect) :
    messagesTo format viewer (effectsOf format effects) = messagesTo format viewer effects := by
  rw [messagesTo, messagesTo, effectsOf, List.filterMap_filter]
  congr 1
  funext effect
  cases effect with
  | call => simp [Effect.message?]
  | offer own => by_cases same : own = format <;> simp [Effect.format, Effect.message?, same]

namespace Scene

/-- A session that begins its turn without effects ends it with effects of its own. -/
theorem effectsOf_continues {scene : Scene} (sorted : scene.Sorted) {own : Format} {last : Turn}
    (continues : Turn.Continues (scene.turn own) last) (format : Format) :
    effectsOf format last.effects = if own = format then last.effects else [] := by
  have formats : ∀ effect ∈ last.effects, effect.format = own := by
    intro effect member
    rcases continues.own effect member with earlier | format
    · cases earlier
    · exact format.trans (sorted own)
  split
  case isTrue same =>
    exact List.filter_eq_self.2 fun effect member => by simp [formats effect member, same]
  case isFalse different =>
    exact List.filter_eq_nil_iff.2 fun effect member => by simp [formats effect member, different]

theorem handle_started_home {scene : Scene} {format : Format}
    (home : (scene.station.session format).sourceHome = true) (outcome : Outcome) :
    scene.handle (.started format outcome) = (scene, []) := by
  rw [handle, if_pos home]

theorem handle_started_away {scene : Scene} {format : Format}
    (away : (scene.station.session format).sourceHome = false) (outcome : Outcome) :
    scene.handle (.started format outcome) =
      ((scene.forget format).apply format ((scene.turn format).started outcome),
        ((scene.turn format).started outcome).effects) := by
  rw [handle, if_neg (by rw [away]; exact Bool.false_ne_true), ← forget_turn scene format format]
  rfl

theorem handle_event_unheard {scene : Scene} {format : Format}
    (deaf : (scene.station.session format).listening = false) (event : SourceEvent) :
    scene.handle (.event format event) = (scene, []) := by
  cases event <;> rw [handle, deaf] <;> rfl

theorem handle_data {scene : Scene} {format : Format}
    (listening : (scene.station.session format).listening = true) (payload : Octets) :
    scene.handle (.event format (.data payload)) = scene.relay format payload := by
  rw [handle, listening]
  rfl

theorem handle_ended {scene : Scene} {format : Format}
    (listening : (scene.station.session format).listening = true) (reason : Option String) :
    scene.handle (.event format (.ended reason)) =
      ((scene.apply format (scene.turn format).ended).forget format,
        (scene.turn format).ended.effects) := by
  rw [handle, listening]
  rfl

/-- The second session that shuts down finds the queues as the first one found them. -/
theorem shutdown_turn (scene : Scene) (outcome : Outcome) :
    (scene.apply .h264 ((scene.turn .h264).shutdown outcome)).turn .jpeg = scene.turn .jpeg := by
  simp [turn, apply, Station.setSession, Station.session]

/-- This says what a step of a scene looks like to the session of one format. -/
structure Shows (result : Scene × List Effect) (format : Format) (last : Turn) : Prop where
  session : result.1.station.session format = last.session
  effects : effectsOf format result.2 = last.effects

/-- In some steps only one session takes part. -/
theorem shows_of_turn {scene : Scene} (sorted : scene.Sorted) (result : Scene × List Effect)
    {own : Format} {last : Turn} (continues : Turn.Continues (scene.turn own) last)
    (session : ∀ format, result.1.station.session format =
      if own = format then last.session else scene.station.session format)
    (effects : result.2 = last.effects) (format : Format) :
    Shows result format (if own = format then last else scene.turn format) where
  session := by rw [session]; split <;> rfl
  effects := by rw [effects, effectsOf_continues sorted continues]; split <;> rfl

/-- In the other steps the sessions take part one after the other. -/
theorem shows_of_turns {scene : Scene} (sorted : scene.Sorted) {result : Scene × List Effect}
    {own : Format} {former latter : Turn} (first : Turn.Continues (scene.turn own) former)
    (second : Turn.Continues (scene.turn own.other) latter)
    (session : ∀ format, result.1.station.session format =
      if own = format then former.session else latter.session)
    (effects : result.2 = former.effects ++ latter.effects) (format : Format) :
    Shows result format (if own = format then former else latter) where
  session := by rw [session]; split <;> rfl
  effects := by
    rw [effects, effectsOf_append, effectsOf_continues sorted first,
      effectsOf_continues sorted second]
    by_cases same : own = format
    · simp [same, format.other_ne]
    · obtain rfl := Format.eq_other_of_ne same
      simp [format.other_ne]

section

variable {scene : Scene} (sorted : scene.Sorted)

include sorted

/-- A viewer that subscribes leaves one session and joins the other. -/
theorem subscribe_shows (viewer : ViewerId) (chosen format : Format) :
    Shows (scene.handle (.subscribe viewer chosen)) format
      ((scene.turn format).handle (scene.catchUp format) (.subscribe viewer chosen)) := by
  have left := leave_turn_other scene chosen.other viewer
  have catchUp := leave_catchUp_other scene chosen.other viewer
  rw [Format.other_other] at left catchUp
  have joins : Turn.Continues (scene.turn chosen.other.other)
      ((scene.turn chosen).subscribe viewer (scene.catchUp chosen)) := by
    rw [Format.other_other]
    exact Turn.Continues.subscribe _ _ _
  have sessions (format : Format) :
      (scene.handle (.subscribe viewer chosen)).1.station.session format =
        if chosen.other = format then ((scene.turn chosen.other).unsubscribe [viewer]).2.session
        else ((scene.turn chosen).subscribe viewer (scene.catchUp chosen)).session := by
    simp only [handle, join, act, apply_session, leave_session, left, catchUp]
    by_cases same : chosen = format
    · simp [same, format.other_ne]
    · obtain rfl := Format.eq_other_of_ne same
      simp [format.other_ne]
  have effects : (scene.handle (.subscribe viewer chosen)).2 =
      ((scene.turn chosen.other).unsubscribe [viewer]).2.effects ++
        ((scene.turn chosen).subscribe viewer (scene.catchUp chosen)).effects := by
    simp only [handle, join, act, left, catchUp, leave_effects]
  have shows := shows_of_turns sorted
    (Turn.Continues.unsubscribe (scene.turn chosen.other) [viewer]) joins sessions effects format
  have own : (scene.turn format).session.format = format := sorted format
  rw [Turn.handle, own]
  by_cases same : chosen = format
  · simpa [same, format.other_ne] using shows
  · obtain rfl := Format.eq_other_of_ne same
    simpa [format.other_ne] using shows

/-- A viewer leaves both sessions, one after the other. -/
theorem unsubscribe_shows (viewer : ViewerId) (format : Format) :
    Shows (scene.handle (.unsubscribe viewer)) format
      ((scene.turn format).handle (scene.catchUp format) (.unsubscribe viewer)) := by
  have left : (scene.leave .h264 viewer).1.turn .jpeg = scene.turn .jpeg :=
    leave_turn_other scene .h264 viewer
  have sessions (format : Format) :
      (scene.handle (.unsubscribe viewer)).1.station.session format =
        if .h264 = format then ((scene.turn .h264).unsubscribe [viewer]).2.session
        else ((scene.turn .jpeg).unsubscribe [viewer]).2.session := by
    simp only [handle, leave_session, left]
    cases format <;> rfl
  have effects : (scene.handle (.unsubscribe viewer)).2 =
      ((scene.turn .h264).unsubscribe [viewer]).2.effects ++
        ((scene.turn .jpeg).unsubscribe [viewer]).2.effects := by
    simp only [handle, leave_effects, left]
  have shows := shows_of_turns sorted (Turn.Continues.unsubscribe (scene.turn .h264) [viewer])
    (Turn.Continues.unsubscribe (scene.turn .jpeg) [viewer]) sessions effects format
  cases format <;> exact shows

/-- An outcome reaches the session whose source is away. -/
theorem started_shows (chosen : Format) (outcome : Outcome) (format : Format) :
    Shows (scene.handle (.started chosen outcome)) format
      ((scene.turn format).handle (scene.catchUp format) (.started chosen outcome)) := by
  have own : (scene.turn format).session.format = format := sorted format
  rw [Turn.handle, own]
  cases place : (scene.station.session chosen).sourceHome with
  | true =>
      have settled : ¬ (chosen = format ∧ (scene.turn format).session.sourceHome = false) := by
        rintro ⟨rfl, away⟩
        rw [turn, place] at away
        cases away
      rw [handle_started_home place, if_neg settled]
      exact ⟨rfl, rfl⟩
  | false =>
      rw [handle_started_away place]
      have sessions (format : Format) :
          ((scene.forget chosen).apply chosen
            ((scene.turn chosen).started outcome)).station.session format =
              if chosen = format then ((scene.turn chosen).started outcome).session
              else scene.station.session format := by
        rw [apply_session, forget_session]
      have shows := shows_of_turn sorted
        ((scene.forget chosen).apply chosen ((scene.turn chosen).started outcome), _)
        (Turn.Continues.started (scene.turn chosen) outcome) sessions rfl format
      by_cases same : chosen = format
      · subst same
        simpa [turn, place] using shows
      · simpa [same] using shows

/-- An event reaches the session that receives the stream. -/
theorem event_shows (chosen : Format) (event : SourceEvent) (format : Format) :
    Shows (scene.handle (.event chosen event)) format
      ((scene.turn format).handle (scene.catchUp format) (.event chosen event)) := by
  have own : (scene.turn format).session.format = format := sorted format
  cases heard : (scene.station.session chosen).listening with
  | false =>
      have deaf : ¬ (chosen = (scene.turn format).session.format ∧
          (scene.turn format).session.listening = true) := by
        rintro ⟨same, listening⟩
        rw [own] at same
        subst same
        rw [turn, heard] at listening
        cases listening
      rw [handle_event_unheard heard]
      cases event <;> rw [Turn.handle, if_neg deaf] <;> exact ⟨rfl, rfl⟩
  | true =>
      cases event with
      | data payload =>
          rw [Turn.handle, own, handle_data heard]
          have shows := shows_of_turn sorted _ (Turn.Continues.relay (scene.turn chosen) payload)
            (fun format => relay_session scene chosen format payload)
            (relay_effects scene chosen payload) format
          by_cases same : chosen = format
          · subst same
            simpa [turn, heard] using shows
          · simpa [same] using shows
      | ended reason =>
          rw [Turn.handle, own, handle_ended heard]
          have sessions (format : Format) :
              ((scene.apply chosen (scene.turn chosen).ended).forget
                chosen).station.session format =
                  if chosen = format then (scene.turn chosen).ended.session
                  else scene.station.session format := by
            rw [forget_session, apply_session]
          have shows := shows_of_turn sorted
            ((scene.apply chosen (scene.turn chosen).ended).forget chosen, _)
            (Turn.Continues.ended (scene.turn chosen)) sessions rfl format
          by_cases same : chosen = format
          · subst same
            simpa [turn, heard] using shows
          · simpa [same] using shows

/-- Both sessions shut down, one after the other. -/
theorem shutdown_shows (h264 jpeg : Outcome) (format : Format) :
    Shows (scene.handle (.shutdown h264 jpeg)) format
      ((scene.turn format).handle (scene.catchUp format) (.shutdown h264 jpeg)) := by
  have second := shutdown_turn scene h264
  have sessions (format : Format) :
      (scene.handle (.shutdown h264 jpeg)).1.station.session format =
        if .h264 = format then ((scene.turn .h264).shutdown h264).session
        else ((scene.turn .jpeg).shutdown jpeg).session := by
    simp only [handle, act, second]
    cases format <;> rfl
  have effects : (scene.handle (.shutdown h264 jpeg)).2 =
      ((scene.turn .h264).shutdown h264).effects ++ ((scene.turn .jpeg).shutdown jpeg).effects := by
    simp only [handle, act, second]
  have shows := shows_of_turns sorted (Turn.Continues.shutdown (scene.turn .h264) h264)
    (Turn.Continues.shutdown (scene.turn .jpeg) jpeg) sessions effects format
  have own : (scene.turn format).session.format = format := sorted format
  rw [Turn.handle, own]
  cases format <;> exact shows

/-- A session sees its own part of an input, whatever the other session does with it. -/
theorem handle_shows (input : Input) (format : Format) :
    Shows (scene.handle input) format
      ((scene.turn format).handle (scene.catchUp format) input) := by
  cases input with
  | subscribe viewer chosen => exact subscribe_shows sorted viewer chosen format
  | unsubscribe viewer => exact unsubscribe_shows sorted viewer format
  | started chosen outcome => exact started_shows sorted chosen outcome format
  | event chosen event => exact event_shows sorted chosen event format
  | shutdown h264 jpeg => exact shutdown_shows sorted h264 jpeg format
  | receive viewer count => exact ⟨rfl, rfl⟩
  | close viewer => exact ⟨rfl, rfl⟩

end

end Scene

end Screencast.Broadcast
