/-
This file defines the invariant of a session and shows that every operation keeps it.
-/

import Screencast.Proofs.Broadcast.Handling

namespace Screencast.Broadcast

namespace Session

/-- The state of a session decides what else it holds. -/
structure Coherent (session : Session) : Prop where
  listening : session.listening = true ↔ session.state = .live
  described : session.info.isSome ↔ session.state = .live
  away : session.sourceHome = false ↔ session.state = .starting
  token : session.token.isSome ↔ session.state = .starting
  watched : session.state = .live → session.subscribers ≠ []
  cancelled : session.state = .starting → session.subscribers = [] → session.token = some true
  announced : ∀ subscriber ∈ session.subscribers,
    subscriber.announced = true ↔ session.state = .live
  distinct : (session.subscribers.map Subscriber.viewer).Nodup

theorem contains_iff {session : Session} {viewer : ViewerId} :
    session.contains viewer = true ↔ viewer ∈ session.subscribers.map Subscriber.viewer := by
  simp [contains]

@[simp] theorem viewers_markAnnounced (session : Session) (viewer : ViewerId) :
    (session.markAnnounced viewer).subscribers.map Subscriber.viewer =
      session.subscribers.map Subscriber.viewer := by
  simp only [markAnnounced, List.map_map, List.map_inj_left]
  intro subscriber _
  by_cases same : subscriber.viewer = viewer <;> simp [same]

theorem viewers_map (subscribers : List Subscriber) (announced : Bool) :
    (subscribers.map fun subscriber => { subscriber with announced }).map Subscriber.viewer =
      subscribers.map Subscriber.viewer := by
  simp

namespace Coherent

section

variable {session : Session} (coherent : session.Coherent)

include coherent

theorem home_of_ne (settled : session.state ≠ .starting) : session.sourceHome = true := by
  have away := mt coherent.away.1 settled
  simpa using away

theorem token_of_ne (settled : session.state ≠ .starting) : session.token = none := by
  have token := mt coherent.token.1 settled
  simpa using token

theorem listening_of_ne (silent : session.state ≠ .live) : session.listening = false := by
  have listening := mt coherent.listening.1 silent
  simpa using listening

theorem info_of_ne (silent : session.state ≠ .live) : session.info = none := by
  have described := mt coherent.described.1 silent
  simpa using described

theorem unannounced_of_ne (silent : session.state ≠ .live) :
    ∀ subscriber ∈ session.subscribers, subscriber.announced = false := by
  intro subscriber member
  have announced := mt (coherent.announced subscriber member).1 silent
  simpa using announced

end

/-- An idle session has its source and its unannounced viewers. -/
theorem ofIdle {session : Session} (idle : session.state = .idle)
    (home : session.sourceHome = true) (token : session.token = none)
    (deaf : session.listening = false) (info : session.info = none)
    (unannounced : ∀ subscriber ∈ session.subscribers, subscriber.announced = false)
    (distinct : (session.subscribers.map Subscriber.viewer).Nodup) : session.Coherent := by
  constructor <;> simp_all

/-- An idle session without viewers needs nothing but its source. -/
theorem ofUnwatched {session : Session} (idle : session.state = .idle)
    (home : session.sourceHome = true) (token : session.token = none)
    (deaf : session.listening = false) (info : session.info = none)
    (empty : session.subscribers = []) : session.Coherent :=
  ofIdle idle home token deaf info (by simp [empty]) (by simp [empty])

/-- A starting session has a token, which is cancelled once nobody is left. -/
theorem ofStarting {session : Session} (starting : session.state = .starting)
    (away : session.sourceHome = false) {cancelled : Bool} (token : session.token = some cancelled)
    (left : session.subscribers = [] → cancelled = true)
    (deaf : session.listening = false) (info : session.info = none)
    (unannounced : ∀ subscriber ∈ session.subscribers, subscriber.announced = false)
    (distinct : (session.subscribers.map Subscriber.viewer).Nodup) : session.Coherent := by
  constructor <;> simp_all

/-- A live session has its source, a description and at least one viewer. -/
theorem ofLive {session : Session} (live : session.state = .live)
    (home : session.sourceHome = true) (token : session.token = none)
    (listening : session.listening = true) (info : session.info.isSome)
    (watched : session.subscribers ≠ [])
    (announced : ∀ subscriber ∈ session.subscribers, subscriber.announced = true)
    (distinct : (session.subscribers.map Subscriber.viewer).Nodup) : session.Coherent := by
  constructor <;> simp_all

theorem new (format : Format) : Coherent { format } :=
  ofUnwatched rfl rfl rfl rfl rfl rfl

theorem unsubscribe {turn : Turn} (coherent : turn.session.Coherent) (gone : List ViewerId) :
    (turn.unsubscribe gone).2.session.Coherent := by
  have left := Turn.unsubscribe_left turn gone
  have kept := List.filter_sublist (l := turn.session.subscribers)
    (p := fun subscriber => decide (subscriber.viewer ∉ gone))
  generalize turn.session.subscribers.filter (fun subscriber =>
    decide (subscriber.viewer ∉ gone)) = rest at left kept
  generalize turn.unsubscribe gone = result at left
  have announced : ∀ subscriber ∈ rest, subscriber.announced = true ↔ turn.session.state = .live :=
    fun subscriber member => coherent.announced subscriber (kept.mem member)
  have distinct : (rest.map Subscriber.viewer).Nodup := coherent.distinct.sublist (kept.map _)
  cases left with
  | nobody => exact coherent
  | some remain =>
      exact { coherent with
        watched := fun _ => remain
        cancelled := fun _ empty => absurd empty remain
        announced, distinct }
  | idle empty idle =>
      exact { coherent with
        watched := fun live => absurd (idle.symm.trans live) (by decide)
        cancelled := fun starting => absurd (idle.symm.trans starting) (by decide)
        announced, distinct }
  | starting empty starting =>
      obtain ⟨cancelled, token⟩ := Option.isSome_iff_exists.1 (coherent.token.2 starting)
      have silent : turn.session.state ≠ .live := by simp [starting]
      subst empty
      exact ofStarting starting (coherent.away.2 starting) (by rw [token]; rfl) (fun _ => rfl)
        (coherent.listening_of_ne silent) (coherent.info_of_ne silent) (by simp) List.nodup_nil
  | live empty live =>
      have settled : turn.session.state ≠ .starting := by simp [live]
      have home := coherent.home_of_ne settled
      subst empty
      rw [Turn.stopLive_of_home (turn.withSubscribers []) home]
      exact ofUnwatched rfl home (coherent.token_of_ne settled) rfl rfl rfl

theorem join_of_contains {session : Session} {viewer : ViewerId}
    (known : session.contains viewer = true) : session.join viewer = session := by
  simp only [join, known, if_true]

theorem join_of_stranger {session : Session} {viewer : ViewerId}
    (stranger : session.contains viewer = false) :
    (session.join viewer).subscribers =
      session.subscribers ++ [{ viewer := viewer }] := by
  simp only [join, stranger, if_false, Bool.false_eq_true]

theorem distinct_join {session : Session}
    (distinct : (session.subscribers.map Subscriber.viewer).Nodup) (viewer : ViewerId) :
    ((session.join viewer).subscribers.map Subscriber.viewer).Nodup := by
  cases known : session.contains viewer with
  | true => rwa [join_of_contains known]
  | false =>
      have missing := mt contains_iff.2 (by rw [known]; exact Bool.false_ne_true)
      rw [join_of_stranger known, List.map_append, List.nodup_append]
      refine ⟨distinct, by simp, fun known member other single => ?_⟩
      rintro rfl
      simp only [List.map_cons, List.map_nil, List.mem_singleton] at single
      exact missing (single ▸ member)

theorem unannounced_join {session : Session}
    (unannounced : ∀ subscriber ∈ session.subscribers, subscriber.announced = false)
    (viewer : ViewerId) :
    ∀ subscriber ∈ (session.join viewer).subscribers, subscriber.announced = false := by
  cases known : session.contains viewer with
  | true => rwa [join_of_contains known]
  | false =>
      intro subscriber member
      rw [join_of_stranger known] at member
      rcases List.mem_append.1 member with known | joined
      · exact unannounced subscriber known
      · rw [List.mem_singleton.1 joined]

theorem join_subscribers_ne_nil (session : Session) (viewer : ViewerId) :
    (session.join viewer).subscribers ≠ [] := by
  cases known : session.contains viewer with
  | true =>
      rw [join_of_contains known]
      rintro empty
      simp [contains, empty] at known
  | false => simp [join_of_stranger known]

/-- A viewer that joins starts an idle session, waits for a starting one, or is told by a live one
unless it was told before. -/
inductive Joined (turn : Turn) (viewer : ViewerId) (catchUp : List Octets) : Turn → Prop
  | starts (idle : turn.session.state = .idle) :
      Joined turn viewer catchUp { turn with
        session := { turn.session.join viewer with
          sourceHome := false, token := some false, state := .starting
          starts := turn.session.starts + 1 }
        effects := turn.effects ++ [.call turn.session.format .start] }
  | waits (starting : turn.session.state = .starting) :
      Joined turn viewer catchUp { turn with session := turn.session.join viewer }
  | stays (live : turn.session.state = .live) (known : turn.session.contains viewer = true) :
      Joined turn viewer catchUp turn
  | told (live : turn.session.state = .live) (stranger : turn.session.contains viewer = false)
      (info : StartInfo) (described : turn.session.info = some info) :
      Joined turn viewer catchUp
        ({ turn with session := turn.session.join viewer }.announce info catchUp viewer)

theorem subscribe_joined {turn : Turn} (coherent : turn.session.Coherent) (viewer : ViewerId)
    (catchUp : List Octets) : Joined turn viewer catchUp (turn.subscribe viewer catchUp) := by
  have state : (turn.session.join viewer).state = turn.session.state := rfl
  have info : (turn.session.join viewer).info = turn.session.info := rfl
  cases now : turn.session.state with
  | idle =>
      have home : (turn.session.join viewer).sourceHome = true :=
        coherent.home_of_ne (by simp [now])
      have starts : turn.subscribe viewer catchUp =
          { turn with session := turn.session.join viewer }.start := by
        simp only [Turn.subscribe, state, now]
      rw [starts, Turn.start_of_home { turn with session := turn.session.join viewer } home]
      exact .starts now
  | starting =>
      have waits : turn.subscribe viewer catchUp =
          { turn with session := turn.session.join viewer } := by
        simp only [Turn.subscribe, state, now]
      rw [waits]
      exact .waits now
  | live =>
      obtain ⟨description, described⟩ := Option.isSome_iff_exists.1 (coherent.described.2 now)
      cases known : turn.session.contains viewer with
      | true =>
          have told : (turn.session.subscribers.any fun subscriber =>
              decide (subscriber.viewer = viewer) && !subscriber.announced) = false := by
            simp only [List.any_eq_false]
            intro subscriber member
            simp [(coherent.announced subscriber member).2 now]
          have stays : turn.subscribe viewer catchUp = turn := by
            simp only [Turn.subscribe, join_of_contains known, now, described, told, if_false,
              Bool.false_eq_true]
          rw [stays]
          exact .stays now known
      | false =>
          have tells : turn.subscribe viewer catchUp =
              { turn with session := turn.session.join viewer }.announce description catchUp
                viewer := by
            simp [Turn.subscribe, join_of_stranger known, state, info, now, described]
          rw [tells]
          exact .told now known description described

/-- A viewer that joins neither begins nor ends a stream. -/
theorem subscribe_live {turn : Turn} (coherent : turn.session.Coherent) (viewer : ViewerId)
    (catchUp : List Octets) :
    (turn.subscribe viewer catchUp).session.state = .live ↔ turn.session.state = .live := by
  have joined := subscribe_joined coherent viewer catchUp
  generalize turn.subscribe viewer catchUp = last at joined
  cases joined with
  | starts idle => simp [idle]
  | waits => exact Iff.rfl
  | stays => exact Iff.rfl
  | told =>
      rw [Turn.announce_session]
      exact Iff.rfl

theorem subscribe {turn : Turn} (coherent : turn.session.Coherent) (viewer : ViewerId)
    (catchUp : List Octets) : (turn.subscribe viewer catchUp).session.Coherent := by
  have joined := subscribe_joined coherent viewer catchUp
  have distinct := distinct_join coherent.distinct viewer
  generalize turn.subscribe viewer catchUp = last at joined
  cases joined with
  | starts idle =>
      have silent : turn.session.state ≠ .live := by simp [idle]
      exact ofStarting rfl rfl rfl (fun empty => absurd empty (join_subscribers_ne_nil _ _))
        (coherent.listening_of_ne silent) (coherent.info_of_ne silent)
        (unannounced_join (coherent.unannounced_of_ne silent) viewer) distinct
  | waits starting =>
      have silent : turn.session.state ≠ .live := by simp [starting]
      obtain ⟨cancelled, token⟩ := Option.isSome_iff_exists.1 (coherent.token.2 starting)
      exact ofStarting starting (coherent.away.2 starting) token
        (fun empty => absurd empty (join_subscribers_ne_nil _ _))
        (coherent.listening_of_ne silent) (coherent.info_of_ne silent)
        (unannounced_join (coherent.unannounced_of_ne silent) viewer) distinct
  | stays live known => exact coherent
  | told live stranger info described =>
      have settled : turn.session.state ≠ .starting := by simp [live]
      rw [Turn.announce_session]
      refine ofLive live (coherent.home_of_ne settled) (coherent.token_of_ne settled)
        (coherent.listening.2 live) (coherent.described.2 live) ?_ ?_ ?_
      · simpa [markAnnounced] using join_subscribers_ne_nil turn.session viewer
      · intro subscriber member
        obtain ⟨before, joined, rfl⟩ := List.mem_map.1 member
        split
        case isTrue => rfl
        case isFalse other =>
          rw [join_of_stranger stranger] at joined
          rcases List.mem_append.1 joined with known | new
          · exact (coherent.announced before known).2 live
          · exact absurd (by rw [List.mem_singleton.1 new]) other
      · rwa [viewers_markAnnounced]

theorem started {turn : Turn} (coherent : turn.session.Coherent)
    (pending : turn.session.state = .starting) (outcome : Outcome) :
    (turn.started outcome).session.Coherent := by
  have silent : turn.session.state ≠ .live := by simp [pending]
  have deaf := coherent.listening_of_ne silent
  have info := coherent.info_of_ne silent
  have unannounced := coherent.unannounced_of_ne silent
  have distinct := coherent.distinct
  by_cases empty : turn.session.subscribers = []
  · obtain ⟨⟨lost, session⟩, -, -⟩ := turn.started_unwatched empty outcome
    rw [session]
    exact ofIdle rfl rfl rfl deaf info unannounced distinct
  cases outcome with
  | live description =>
      obtain ⟨session, -, -⟩ := Turn.started_live_watched empty description
      rw [session]
      refine ofLive rfl rfl rfl rfl rfl (by simpa using empty) ?_ (by rwa [viewers_map])
      intro subscriber member
      obtain ⟨before, -, rfl⟩ := List.mem_map.1 member
      rfl
  | cancelled =>
      rw [Turn.started_cancelled_watched empty]
      exact ofStarting rfl rfl rfl (fun nobody => absurd nobody empty) deaf info unannounced
        distinct
  | failed fault =>
      obtain ⟨lost, gone, session, -, -⟩ := Turn.started_failed turn fault
      rw [session]
      exact ofIdle rfl rfl rfl deaf info
        (fun subscriber member => unannounced subscriber (List.mem_filter.1 member).1)
        (distinct.sublist (List.filter_sublist.map _))

theorem relay {turn : Turn} (coherent : turn.session.Coherent) (payload : Octets) :
    (turn.relay payload).2.session.Coherent := by
  obtain ⟨offered, lost, gone, session, -, -, relayed⟩ := Turn.relay_offered turn payload
  have same : offered.session.Coherent := by
    rw [session]
    exact { coherent with }
  rw [relayed]
  exact same.unsubscribe gone

theorem ended {turn : Turn} (coherent : turn.session.Coherent)
    (live : turn.session.state = .live) : turn.ended.session.Coherent := by
  have settled : turn.session.state ≠ .starting := by simp [live]
  have home := coherent.home_of_ne settled
  rw [Turn.ended_of_home home]
  refine ofIdle rfl home (coherent.token_of_ne settled) rfl rfl ?_
    (by rw [viewers_map]; exact coherent.distinct)
  intro subscriber member
  obtain ⟨before, -, rfl⟩ := List.mem_map.1 member
  rfl

/-- A session that was shut down is idle and has no viewers. -/
theorem shutdown {turn : Turn} (coherent : turn.session.Coherent) (outcome : Outcome) :
    (turn.shutdown outcome).session.Coherent ∧
      (turn.shutdown outcome).session.state = .idle ∧
      (turn.shutdown outcome).session.subscribers = [] := by
  cases state : turn.session.state with
  | idle =>
      have settled : turn.session.state ≠ .starting := by simp [state]
      have silent : turn.session.state ≠ .live := by simp [state]
      rw [Turn.shutdown_settled (coherent.token_of_ne settled), if_neg silent]
      exact ⟨ofUnwatched state (coherent.home_of_ne settled) (coherent.token_of_ne settled)
        (coherent.listening_of_ne silent) (coherent.info_of_ne silent) rfl, state, rfl⟩
  | starting =>
      have silent : turn.session.state ≠ .live := by simp [state]
      rw [Turn.shutdown_pending (coherent.token.2 state)]
      obtain ⟨⟨lost, session⟩, -, -⟩ := (turn.withSubscribers []).started_unwatched
        rfl outcome
      rw [session]
      exact ⟨ofUnwatched rfl rfl rfl (coherent.listening_of_ne silent)
        (coherent.info_of_ne silent) rfl, rfl, rfl⟩
  | live =>
      have settled : turn.session.state ≠ .starting := by simp [state]
      have home := coherent.home_of_ne settled
      rw [Turn.shutdown_settled (coherent.token_of_ne settled), if_pos state,
        Turn.stopLive_of_home (turn.withSubscribers []) home]
      exact ⟨ofUnwatched rfl home (coherent.token_of_ne settled) rfl rfl rfl, rfl, rfl⟩

/-- Every input keeps a session coherent. -/
theorem handle {turn : Turn} (coherent : turn.session.Coherent) (catchUp : List Octets)
    (input : Input) : (turn.handle catchUp input).session.Coherent := by
  cases input with
  | subscribe viewer format =>
      rw [Turn.handle]
      split
      · exact coherent.subscribe viewer catchUp
      · exact coherent.unsubscribe [viewer]
  | unsubscribe viewer => exact coherent.unsubscribe [viewer]
  | started format outcome =>
      rw [Turn.handle]
      split
      case isTrue pending => exact coherent.started (coherent.away.1 pending.2) outcome
      case isFalse => exact coherent
  | event format event =>
      cases event with
      | data payload =>
          rw [Turn.handle]
          split
          · exact coherent.relay payload
          · exact coherent
      | ended reason =>
          rw [Turn.handle]
          split
          case isTrue heard => exact coherent.ended (coherent.listening.1 heard.2)
          case isFalse => exact coherent
  | shutdown h264 jpeg => exact (coherent.shutdown _).1
  | receive | close => exact coherent

end Coherent

end Session

end Screencast.Broadcast
