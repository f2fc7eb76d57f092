/-
This file defines the bounded queues of the viewers. A full queue loses what is offered to it, so a
slow viewer never delays the stream.
-/

import Screencast.Broadcast.Message

namespace Screencast.Broadcast

/-- A queue holds its oldest message first. -/
structure Mailbox where
  capacity : Nat
  messages : List Message := []
  isOpen : Bool := true
  deriving DecidableEq, Repr

/-- An offer succeeds, finds the queue full or finds it closed. -/
inductive Delivery
  | sent
  | dropped
  | closed
  deriving DecidableEq, Repr

namespace Mailbox

/-- A new queue has room for at least one message. -/
def create (capacity : Nat) : Mailbox := { capacity := max capacity 1 }

def offer (mailbox : Mailbox) (message : Message) : Delivery × Mailbox :=
  if !mailbox.isOpen then (.closed, mailbox)
  else if mailbox.messages.length < mailbox.capacity then
    (.sent, { mailbox with messages := mailbox.messages ++ [message] })
  else (.dropped, mailbox)

/-- The viewer takes its oldest messages. -/
def take (mailbox : Mailbox) (count : Nat) : List Message × Mailbox :=
  (mailbox.messages.take count, { mailbox with messages := mailbox.messages.drop count })

/-- A closed queue has no messages. -/
def close (mailbox : Mailbox) : Mailbox := { mailbox with messages := [], isOpen := false }

end Mailbox

/-- A viewer is known by its name. -/
abbrev ViewerId := String

/-- Every viewer has one queue. -/
structure Mailboxes where
  entries : List (ViewerId × Mailbox) := []
  deriving DecidableEq, Repr

namespace Mailboxes

/-- An unknown viewer's queue is closed. -/
def missing : Mailbox := { capacity := 0, isOpen := false }

def find? (mailboxes : Mailboxes) (viewer : ViewerId) : Option Mailbox :=
  (mailboxes.entries.find? fun entry => entry.1 = viewer).map Prod.snd

def get (mailboxes : Mailboxes) (viewer : ViewerId) : Mailbox :=
  (mailboxes.find? viewer).getD missing

/-- This replaces a viewer's queue and leaves the others. -/
def set (mailboxes : Mailboxes) (viewer : ViewerId) (mailbox : Mailbox) : Mailboxes :=
  ⟨(viewer, mailbox) :: mailboxes.entries.filter fun entry => entry.1 ≠ viewer⟩

@[simp] theorem get_set_self (mailboxes : Mailboxes) (viewer : ViewerId) (mailbox : Mailbox) :
    (mailboxes.set viewer mailbox).get viewer = mailbox := by
  simp [get, find?, set]

theorem get_set_of_ne (mailboxes : Mailboxes) {viewer other : ViewerId} (mailbox : Mailbox)
    (distinct : other ≠ viewer) :
    (mailboxes.set viewer mailbox).get other = mailboxes.get other := by
  have different : ¬ viewer = other := fun equal => distinct equal.symm
  have skip : (fun entry : ViewerId × Mailbox =>
      decide (decide (entry.1 ≠ viewer) = true ∧ decide (entry.1 = other) = true)) =
        fun entry => decide (entry.1 = other) := by
    funext entry
    by_cases same : entry.1 = other
    · simp [same, distinct]
    · simp [same]
  simp only [get, find?, set, List.find?_cons, different, decide_false, List.find?_filter, skip]

def offer (mailboxes : Mailboxes) (viewer : ViewerId) (message : Message) :
    Delivery × Mailboxes :=
  let (delivery, mailbox) := (mailboxes.get viewer).offer message
  (delivery, mailboxes.set viewer mailbox)

end Mailboxes

end Screencast.Broadcast
