/-
This file shows what offers do to the queues of the viewers. The effects of a turn say all of it.
-/

import Screencast.Proofs.Broadcast.Turns

namespace Screencast.Broadcast

namespace Mailbox

@[simp] theorem isOpen_offer (mailbox : Mailbox) (message : Message) :
    (mailbox.offer message).2.isOpen = mailbox.isOpen := by
  unfold offer
  split
  · rfl
  · split <;> rfl

/-- Only a closed queue refuses a message for good. -/
theorem offer_eq_closed_iff (mailbox : Mailbox) (message : Message) :
    (mailbox.offer message).1 = .closed ↔ mailbox.isOpen = false := by
  unfold offer
  cases mailbox.isOpen with
  | false => simp
  | true =>
      simp only [Bool.not_true, Bool.false_eq_true, if_false]
      split <;> simp

end Mailbox

namespace Mailboxes

/-- No offer opens or closes a queue. -/
@[simp] theorem isOpen_offer (mail : Mailboxes) (viewer other : ViewerId) (message : Message) :
    ((mail.offer viewer message).2.get other).isOpen = (mail.get other).isOpen := by
  have answered : (mail.offer viewer message).2 =
      mail.set viewer ((mail.get viewer).offer message).2 := rfl
  rw [answered]
  by_cases same : other = viewer
  · rw [same, get_set_self, Mailbox.isOpen_offer]
  · rw [get_set_of_ne mail _ same]

/-- The offers among some effects are made to the queues once more. -/
def replay (mail : Mailboxes) : List Effect → Mailboxes
  | [] => mail
  | .call .. :: rest => mail.replay rest
  | .offer _ viewer message _ :: rest => (mail.offer viewer message).2.replay rest

theorem replay_append (mail : Mailboxes) (first second : List Effect) :
    mail.replay (first ++ second) = (mail.replay first).replay second := by
  induction first generalizing mail with
  | nil => rfl
  | cons effect rest inductionHypothesis =>
      cases effect with
      | call => exact inductionHypothesis mail
      | offer format viewer message => exact inductionHypothesis (mail.offer viewer message).2

@[simp] theorem isOpen_replay (mail : Mailboxes) (effects : List Effect) (viewer : ViewerId) :
    ((mail.replay effects).get viewer).isOpen = (mail.get viewer).isOpen := by
  induction effects generalizing mail with
  | nil => rfl
  | cons effect rest inductionHypothesis =>
      cases effect with
      | call => exact inductionHypothesis mail
      | offer format other message =>
          exact (inductionHypothesis _).trans (isOpen_offer mail other viewer message)

end Mailboxes

/-- What became of each offer is what the queue of its viewer answered. -/
def Faithful (mail : Mailboxes) : List Effect → Prop
  | [] => True
  | .call .. :: rest => Faithful mail rest
  | .offer _ viewer message delivery :: rest =>
      delivery = (mail.offer viewer message).1 ∧ Faithful (mail.offer viewer message).2 rest

theorem faithful_append (mail : Mailboxes) (first second : List Effect) :
    Faithful mail (first ++ second) ↔
      Faithful mail first ∧ Faithful (mail.replay first) second := by
  induction first generalizing mail with
  | nil => exact ⟨fun faithful => ⟨trivial, faithful⟩, And.right⟩
  | cons effect rest inductionHypothesis =>
      cases effect with
      | call => exact inductionHypothesis mail
      | offer format viewer message delivery =>
          have tail := inductionHypothesis (mail.offer viewer message).2
          simp only [List.cons_append, Faithful, tail, and_assoc, Mailboxes.replay]

/-- An offer is refused if and only if the queue was closed before. -/
theorem Faithful.closed_iff {mail : Mailboxes} {effects : List Effect}
    (faithful : Faithful mail effects) {format : Format} {viewer : ViewerId} {message : Message}
    {delivery : Delivery} (member : .offer format viewer message delivery ∈ effects) :
    delivery = .closed ↔ (mail.get viewer).isOpen = false := by
  obtain ⟨former, latter, rfl⟩ := List.append_of_mem member
  obtain ⟨-, answered, -⟩ := (faithful_append mail former _).1 faithful
  rw [answered, ← Mailboxes.isOpen_replay mail former viewer]
  exact Mailbox.offer_eq_closed_iff _ message

end Screencast.Broadcast
