/-
This file connects to forwarded sockets. A socket may open later than it is dialled, so failed
attempts are repeated with growing pauses.
-/

import Screencast.Fault

namespace Screencast.Device

/-- A failed attempt may be repeated in these cases. -/
inductive Retry
  | anyFault
  /-- The address exists, but nothing listens on it yet. -/
  | notListening
  | never
  deriving DecidableEq, Repr

def Retry.allows : Retry → TransportFault → Bool
  | .anyFault, _ => true
  | .notListening, fault => fault.kind = .refused
  | .never, _ => false

/-- An attempt connects or fails. A connection is asked to send without delay, and that may fail
too. -/
inductive Attempt (α : Type)
  | connected (value : α) (undelayed : Except TransportFault Unit)
  | failed (fault : TransportFault)

/-- These are the things that dialling does. -/
inductive DialStep (α : Type)
  | attempt (attempt : Attempt α)
  | pause (span : Span)

/-- Dialling ends with a result. The trace has all of its attempts and pauses in their order. -/
structure Dialled (α : Type) where
  result : Except Fault α
  trace : List (DialStep α)

namespace Dialled

/-- A connection that cannot send without delay is given up. -/
def settle {α : Type} (value : α) : Except TransportFault Unit → Except Fault α
  | .ok () => .ok value
  | .error fault => .error (.transport fault)

/-- Some attempts are left after the one that is made. The pauses double. -/
def dialFrom {α : Type} (retryable : TransportFault → Bool) (exhausted : Fault)
    (outcome : Nat → Attempt α) (made : Nat) (delay : Span) : (left : Nat) → Dialled α
  | 0 =>
      match outcome made with
      | .connected value undelayed =>
          { result := settle value undelayed, trace := [.attempt (.connected value undelayed)] }
      | .failed fault =>
          { result := .error (if retryable fault then exhausted else .transport fault)
            trace := [.attempt (.failed fault)] }
  | left + 1 =>
      match outcome made with
      | .connected value undelayed =>
          { result := settle value undelayed, trace := [.attempt (.connected value undelayed)] }
      | .failed fault =>
          if retryable fault then
            let rest := dialFrom retryable exhausted outcome (made + 1) delay.double left
            { rest with trace := .attempt (.failed fault) :: .pause delay :: rest.trace }
          else { result := .error (.transport fault), trace := [.attempt (.failed fault)] }

/-- At least one attempt is made. The outcome function tells how each attempt ends. -/
def dial {α : Type} (retryable : TransportFault → Bool) (address : String) (attempts : Nat)
    (delay : Span) (outcome : Nat → Attempt α) : Dialled α :=
  let limit := max attempts 1
  dialFrom retryable (.connectExhausted address limit) outcome 0 delay (limit - 1)

end Dialled

end Screencast.Device
