/-
This file says who the viewers of a session are after each operation.
-/

import Screencast.Proofs.Broadcast.Coherence

namespace Screencast.Broadcast.Turn

open Session

theorem subscribers_unsubscribe (turn : Turn) (gone : List ViewerId) :
    (turn.unsubscribe gone).2.session.subscribers =
      turn.session.subscribers.filter fun subscriber => subscriber.viewer ∉ gone := by
  have left := unsubscribe_left turn gone
  generalize turn.session.subscribers.filter (fun subscriber =>
    decide (subscriber.viewer ∉ gone)) = rest at left ⊢
  generalize turn.unsubscribe gone = result at left
  cases left with
  | nobody same => exact same
  | some | idle | starting => rfl
  | live => exact stopLive_subscribers _

theorem contains_unsubscribe (turn : Turn) (gone : List ViewerId) (viewer : ViewerId) :
    (turn.unsubscribe gone).2.session.contains viewer = true ↔
      turn.session.contains viewer = true ∧ viewer ∉ gone := by
  rw [contains, subscribers_unsubscribe, contains]
  simp only [List.any_filter, List.any_eq_true, Bool.and_eq_true, decide_eq_true_eq]
  constructor
  · rintro ⟨subscriber, member, stays, rfl⟩
    exact ⟨⟨subscriber, member, rfl⟩, stays⟩
  · rintro ⟨⟨subscriber, member, rfl⟩, stays⟩
    exact ⟨subscriber, member, stays, rfl⟩

/-- A viewer that is not here changes nothing when it leaves. -/
theorem unsubscribe_of_stranger {turn : Turn} {viewer : ViewerId}
    (stranger : turn.session.contains viewer = false) :
    turn.unsubscribe [viewer] = (false, turn) := by
  rw [Turn.unsubscribe, if_neg]
  simpa [Session.contains] using stranger

theorem contains_started {turn : Turn} (outcome : Outcome) {viewer : ViewerId}
    (member : (turn.started outcome).session.contains viewer = true) :
    turn.session.contains viewer = true := by
  by_cases empty : turn.session.subscribers = []
  · obtain ⟨⟨lost, session⟩, -, -⟩ := started_unwatched turn empty outcome
    rwa [session] at member
  cases outcome with
  | live info =>
      obtain ⟨session, -, -⟩ := started_live_watched empty info
      rw [session] at member
      simpa [contains] using member
  | cancelled =>
      rwa [started_cancelled_watched empty] at member
  | failed fault =>
      obtain ⟨lost, gone, session, -, -⟩ := started_failed turn fault
      rw [session] at member
      simp only [contains, List.any_filter, List.any_eq_true, Bool.and_eq_true] at member ⊢
      obtain ⟨subscriber, known, -, same⟩ := member
      exact ⟨subscriber, known, same⟩

theorem contains_relay {turn : Turn} (payload : Octets) {viewer : ViewerId}
    (member : (turn.relay payload).2.session.contains viewer = true) :
    turn.session.contains viewer = true := by
  obtain ⟨offered, lost, gone, session, -, -, relayed⟩ := relay_offered turn payload
  rw [relayed, contains_unsubscribe, session] at member
  exact member.1

theorem contains_ended {turn : Turn} {viewer : ViewerId}
    (member : turn.ended.session.contains viewer = true) :
    turn.session.contains viewer = true := by
  simpa [ended, contains, stopLive_subscribers] using member

theorem contains_join (session : Session) (other viewer : ViewerId) :
    (session.join other).contains viewer = true ↔
      session.contains viewer = true ∨ viewer = other := by
  cases known : session.contains other with
  | true =>
      rw [Coherent.join_of_contains known]
      refine ⟨.inl, fun either => either.elim id ?_⟩
      rintro rfl
      exact known
  | false =>
      rw [contains, Coherent.join_of_stranger known, List.any_append, contains]
      simp [eq_comm (a := viewer)]

theorem contains_subscribe {turn : Turn} (coherent : turn.session.Coherent) (other : ViewerId)
    (catchUp : List Octets) (viewer : ViewerId) :
    (turn.subscribe other catchUp).session.contains viewer = true ↔
      turn.session.contains viewer = true ∨ viewer = other := by
  have joined := coherent.subscribe_joined other catchUp
  have join := contains_join turn.session other viewer
  generalize turn.subscribe other catchUp = last at joined
  cases joined with
  | starts | waits => exact join
  | stays live known => rwa [Coherent.join_of_contains known] at join
  | told =>
      rw [announce_session, contains_iff, viewers_markAnnounced, ← contains_iff]
      exact join

/-- Nobody but the viewer that subscribes becomes a viewer. -/
theorem contains_handle {turn : Turn} (coherent : turn.session.Coherent)
    (catchUp : List Octets) (input : Input) {viewer : ViewerId}
    (member : (turn.handle catchUp input).session.contains viewer = true) :
    turn.session.contains viewer = true ∨ input = .subscribe viewer turn.session.format := by
  cases input with
  | subscribe other format =>
      rw [handle] at member
      split at member
      case isTrue same =>
        rcases (contains_subscribe coherent other catchUp viewer).1 member with known | rfl
        · exact .inl known
        · exact .inr (by rw [same])
      case isFalse => exact .inl ((contains_unsubscribe _ _ _).1 member).1
  | unsubscribe other => exact .inl ((contains_unsubscribe _ _ _).1 member).1
  | started format outcome =>
      rw [handle] at member
      split at member
      · exact .inl (contains_started outcome member)
      · exact .inl member
  | event format event =>
      cases event with
      | data payload =>
          rw [handle] at member
          split at member
          · exact .inl (contains_relay payload member)
          · exact .inl member
      | ended reason =>
          rw [handle] at member
          split at member
          · exact .inl (contains_ended member)
          · exact .inl member
  | shutdown h264 jpeg =>
      have empty := (coherent.shutdown (turn.session.format.choose h264 jpeg)).2.2
      rw [handle, contains, empty] at member
      cases member
  | receive | close => exact .inl member

/-- A viewer that subscribes elsewhere is no viewer here. -/
theorem contains_handle_elsewhere {turn : Turn} {format : Format}
    (elsewhere : format ≠ turn.session.format) (catchUp : List Octets) (viewer : ViewerId) :
    (turn.handle catchUp (.subscribe viewer format)).session.contains viewer = false := by
  rw [handle, if_neg elsewhere]
  exact Bool.eq_false_iff.2 fun member =>
    ((contains_unsubscribe _ _ _).1 member).2 (List.mem_singleton.2 rfl)

end Screencast.Broadcast.Turn
