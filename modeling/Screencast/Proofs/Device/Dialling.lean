/-
This file says how dialling goes on and how it ends. The outcomes decide how many attempts are made,
and the first pause decides all later ones.
-/

import Screencast.Device.Dial
import Mathlib.Algebra.Group.Nat.Defs

namespace Screencast

namespace Span

/-- A span that is taken several times stops at the longest span. -/
def times (span : Span) (count : Nat) : Span :=
  ⟨min (span.nanoseconds * count) longest.nanoseconds⟩

theorem times_one {span : Span} (fits : span.nanoseconds ≤ longest.nanoseconds) :
    span.times 1 = span := by
  rw [times, Nat.mul_one, Nat.min_eq_left fits]

/-- What doubling cuts off would be cut off later too. -/
theorem times_double (span : Span) {count : Nat} (positive : 0 < count) :
    span.double.times count = span.times (count * 2) := by
  have twice : span.nanoseconds * (count * 2) = span.nanoseconds * 2 * count := by
    rw [Nat.mul_comm count, Nat.mul_assoc]
  rw [times, times, double, twice]
  apply congrArg Span.mk
  generalize span.nanoseconds * 2 = doubled
  by_cases short : doubled ≤ longest.nanoseconds
  · rw [Nat.min_eq_left short]
  · have long : longest.nanoseconds ≤ doubled := Nat.le_of_not_le short
    have limit := Nat.le_mul_of_pos_right longest.nanoseconds positive
    have above := Nat.mul_le_mul_right count long
    rw [Nat.min_eq_right long, Nat.min_eq_right limit, Nat.min_eq_right (Nat.le_trans limit above)]

end Span

namespace Device

variable {α : Type}

namespace Attempt

/-- Only after such an attempt another one is worth making. -/
def repeats (retryable : TransportFault → Bool) : Attempt α → Bool
  | .connected .. => false
  | .failed fault => retryable fault

/-- This is what the last attempt makes of the whole dialling. -/
def verdict (retryable : TransportFault → Bool) (exhausted : Fault) : Attempt α → Except Fault α
  | .connected value undelayed => Dialled.settle value undelayed
  | .failed fault => .error (if retryable fault then exhausted else .transport fault)

end Attempt

namespace Dialled

/-- Each of some attempts has a pause behind it. -/
def rounds (outcome : Nat → Attempt α) (pause : Nat → Span) (count : Nat) : List (DialStep α) :=
  (List.range count).flatMap fun index => [.attempt (outcome index), .pause (pause index)]

theorem rounds_succ (outcome : Nat → Attempt α) (pause : Nat → Span) (count : Nat) :
    rounds outcome pause (count + 1) = .attempt (outcome 0) :: .pause (pause 0) ::
      rounds (fun index => outcome (index + 1)) (fun index => pause (index + 1)) count := by
  rw [rounds, List.range_succ_eq_map, List.flatMap_cons, List.flatMap_map]
  rfl

/-- Dialling goes on in this way when some attempts are made already and some are left after the
next one. So many attempts are repeated. -/
structure Proceeds (retryable : TransportFault → Bool) (exhausted : Fault)
    (outcome : Nat → Attempt α) (made : Nat) (delay : Span) (left : Nat)
    (dialled : Dialled α) (repeated : Nat) : Prop where
  limited : repeated ≤ left
  repeats : ∀ index < repeated, (outcome (made + index)).repeats retryable = true
  stopped : repeated < left → (outcome (made + repeated)).repeats retryable = false
  result : dialled.result = (outcome (made + repeated)).verdict retryable exhausted
  trace : delay.nanoseconds ≤ Span.longest.nanoseconds → dialled.trace =
    rounds (fun index => outcome (made + index)) (fun index => delay.times (2 ^ index)) repeated ++
      [.attempt (outcome (made + repeated))]

section

variable {retryable : TransportFault → Bool} {exhausted : Fault} {outcome : Nat → Attempt α}
  {made : Nat} {delay : Span}

/-- An attempt ends the dialling when it is the last one or when its outcome does not repeat. -/
theorem Proceeds.last {left : Nat}
    (final : left = 0 ∨ (outcome made).repeats retryable = false) :
    Proceeds retryable exhausted outcome made delay left
      { result := (outcome made).verdict retryable exhausted, trace := [.attempt (outcome made)] }
      0 where
  limited := Nat.zero_le left
  repeats index before := absurd before (Nat.not_lt_zero index)
  stopped early := final.resolve_left (Nat.ne_of_gt early)
  result := rfl
  trace _ := rfl

/-- A repeated attempt pauses first, and the next pause is twice as long. -/
theorem Proceeds.again {left repeated : Nat} {rest : Dialled α}
    (repeating : (outcome made).repeats retryable = true)
    (proceeds : Proceeds retryable exhausted outcome (made + 1) delay.double left rest repeated) :
    Proceeds retryable exhausted outcome made delay (left + 1)
      { rest with trace := .attempt (outcome made) :: .pause delay :: rest.trace }
      (repeated + 1) where
  limited := Nat.succ_le_succ proceeds.limited
  repeats index before := by
    cases index with
    | zero => exact repeating
    | succ index =>
        rw [← Nat.succ_add_eq_add_succ]
        exact proceeds.repeats index (Nat.lt_of_succ_lt_succ before)
  stopped early := by
    rw [← Nat.succ_add_eq_add_succ]
    exact proceeds.stopped (Nat.lt_of_succ_lt_succ early)
  result := by
    rw [← Nat.succ_add_eq_add_succ]
    exact proceeds.result
  trace fits := by
    have next (index : Nat) : outcome (made + (index + 1)) = outcome (made + 1 + index) := by
      rw [Nat.succ_add_eq_add_succ]
    have pauses (index : Nat) : delay.times (2 ^ (index + 1)) = delay.double.times (2 ^ index) := by
      rw [Span.times_double delay (Nat.two_pow_pos index)]
      rfl
    dsimp only
    rw [proceeds.trace (Nat.min_le_right _ _), rounds_succ, Nat.pow_zero, Span.times_one fits]
    simp only [next, pauses]
    rfl

end

end Dialled

end Device

end Screencast
