/-
This file cancels a start and stops its session. Nothing is lost unless the start was letting go of
something itself at that moment.
-/

import Screencast.Proofs.Grabber.Attempts
import Screencast.Proofs.Recorder.Sessions

namespace Screencast.Device

namespace Account

variable {κ : Type} {launch kill : κ → String} {ended : List (κ × ProcessId)}
  {account later : Account}

/-- Everything that was acquired was released once: every forward was removed, and every process was
killed and its kind's command was run on the device. Nothing else was released. -/
structure Settled (launch kill : κ → String) (ended : List (κ × ProcessId)) (account : Account) :
    Prop where
  removals : account.removals = account.forwards
  processes : account.processes = ended.map fun held => (launch held.1, held.2)
  kills : account.kills = ended.map Prod.snd
  shells : account.shells = ended.map fun held => kill held.1

/-- Something was acquired and is not released. -/
def Lossy (account : Account) : Prop :=
  account.removals.length < account.forwards.length ∨
    account.kills.length < account.processes.length ∨
    account.shells.length < account.processes.length

namespace Settled

theorem nothing (fault : Option Fault) : Settled launch kill [] { fault } := ⟨rfl, rfl, rfl, rfl⟩

theorem append {first second : List (κ × ProcessId)} {account later : Account}
    (former : Settled launch kill first account) (latter : Settled launch kill second later) :
    Settled launch kill (first ++ second) (account.append later) where
  removals := by simp only [Account.append, former.removals, latter.removals]
  processes := by simp only [Account.append, former.processes, latter.processes, List.map_append]
  kills := by simp only [Account.append, former.kills, latter.kills, List.map_append]
  shells := by simp only [Account.append, former.shells, latter.shells, List.map_append]

theorem length_removals (settled : Settled launch kill ended account) :
    account.removals.length = account.forwards.length := by rw [settled.removals]

theorem length_kills (settled : Settled launch kill ended account) :
    account.kills.length = account.processes.length := by
  rw [settled.kills, settled.processes, List.length_map, List.length_map]

theorem length_shells (settled : Settled launch kill ended account) :
    account.shells.length = account.processes.length := by
  rw [settled.shells, settled.processes, List.length_map, List.length_map]

theorem not_lossy (settled : Settled launch kill ended account) : ¬account.Lossy := by
  simp [Lossy, settled.length_removals, settled.length_kills, settled.length_shells]

/-- What is lost later stays lost. -/
theorem append_lossy (settled : Settled launch kill ended account) (lossy : later.Lossy) :
    (account.append later).Lossy := by
  simpa [Lossy, Account.append, settled.length_removals, settled.length_kills,
    settled.length_shells] using lossy

end Settled

end Account

namespace Session

variable {κ : Type} {launch kill : κ → String} {tried : List κ} {fault late : Option Fault}
  {log later : List Exchange} {session held : Session κ} {operation : Operation}

/-- Whatever was given back is settled. -/
theorem Returned.settled (returned : Returned launch kill tried fault log) :
    ∃ ended, Account.Settled launch kill ended (Account.of log) := by
  obtain ⟨held, acquired, released, late, rfl, noted, account⟩ := returned
  refine ⟨held.process.toList, ?_⟩
  rw [Account.of_append, noted.account, account]
  constructor <;> simp [Account.append, holdings, returns]

/-- A release that is interrupted loses what it was about. -/
theorem Interrupted.lossy {account : Account}
    (interrupted : held.Interrupted kill account session operation) :
    ((held.holdings launch tried fault).append
      (account.append (session.returns kill late))).Lossy := by
  cases interrupted with
  | removal noted => exact .inl (by simp [Account.append, holdings, returns, noted])
  | kill _ noted => exact .inr (.inl (by simp [Account.append, holdings, returns, noted]))
  | shell _ noted => exact .inr (.inr (by simp [Account.append, holdings, returns, noted]))

theorem Interrupted.isRelease {account : Account}
    (interrupted : held.Interrupted kill account session operation) :
    operation.isRelease = true := by
  cases interrupted <;> rfl

/-- The only commands of a release are those that kill a program. -/
theorem Interrupted.told {account : Account} {command : String}
    (interrupted : held.Interrupted kill account session (.request (.shell command))) :
    ∃ kind, command = kill kind := by
  cases interrupted with
  | shell => exact ⟨_, rfl⟩

/-- A session is released while a task is underway, and everything is given back. -/
theorem Underway.settled (underway : Underway launch kill log session operation)
    (acquires : operation.isRelease = false)
    (released : Account.of later = session.returns kill late) :
    ∃ ended, Account.Settled launch kill ended (Account.of (log ++ later)) := by
  cases underway with
  | acquiring noted _ =>
      have returned : Returned launch kill _ none (log ++ later) :=
        ⟨session, log, later, late, rfl, noted, released⟩
      exact returned.settled
  | releasing noted interrupted => simp [interrupted.isRelease] at acquires

/-- Something is lost if the task waits for a release. -/
theorem Underway.lossy (underway : Underway launch kill log session operation)
    (releases : operation.isRelease = true)
    (released : Account.of later = session.returns kill late) :
    (Account.of (log ++ later)).Lossy := by
  cases underway with
  | acquiring noted acquires => simp [acquires] at releases
  | releasing noted interrupted =>
      rw [List.append_assoc, Account.of_append, noted.account, Account.of_append, released]
      exact interrupted.lossy

end Session

end Screencast.Device

namespace Screencast.Recorder.Session

open Device Procedure Device.Session

variable {ω : Type}

/-- A recorder's start is dropped and its session is stopped. Everything is given back, unless the
start waited for a release of its own. -/
theorem dropped_settled_iff (settings : Settings) (serial : String) (world later : World ω)
    (count : Nat) (outside : ω) :
    let dropped := (start settings serial {}).drop world.recorded count (outside, [])
    let stopped := (stop dropped.1).run later.recorded dropped.2
    (∃ ended, Account.Settled (launching settings) killing ended (Account.of stopped.2.2.2)) ↔
      ∀ operation ∈ (start settings serial {}).awaited world.recorded count (outside, []),
        operation.isRelease = false := by
  intro dropped stopped
  have kept := (start_keeps settings serial).drop world count outside
  obtain ⟨-, released, late, split, account⟩ :=
    release_returns killing dropped.1 later dropped.2.1 dropped.2.2
  have split : stopped.2.2.2 = dropped.2.2 ++ released := split
  rw [split]
  cases awaits : (start settings serial {}).awaited world.recorded count (outside, []) with
  | none =>
      rw [awaits] at kept
      obtain ⟨result, started⟩ := kept
      obtain ⟨tried, fault, returned⟩ := started.returned account
      exact iff_of_true returned.settled (by simp)
  | some operation =>
      rw [awaits] at kept
      cases releases : operation.isRelease with
      | false => exact iff_of_true (kept.settled releases account) (by simp [releases])
      | true =>
          refine iff_of_false ?_ (by simp [releases])
          rintro ⟨ended, settled⟩
          exact settled.not_lossy (kept.lossy releases account)

end Screencast.Recorder.Session

namespace Screencast.Grabber.Session

open Device Procedure Device.Session

variable {ω : Type} {settings : Settings} {projection : Projection} {log later : List Exchange}
  {state : Session} {late : Option Fault}

/-- Failed attempts leave nothing behind. -/
theorem Failed.settled {kinds : List Kind} (failed : Failed settings projection kinds log) :
    ∃ ended, Account.Settled (launching settings projection) Kind.killCommand ended
      (Account.of log) := by
  induction failed with
  | untried => exact ⟨[], .nothing none⟩
  | next _ returned inductionHypothesis =>
      obtain ⟨former, settled⟩ := inductionHypothesis
      obtain ⟨latter, returned⟩ := returned.settled
      exact ⟨former ++ latter, Account.of_append _ _ ▸ settled.append returned⟩

/-- A release behind the attempts leaves nothing either. -/
theorem Attempted.settled {result : Except Fault Banner}
    (attempted : Attempted settings projection log state result)
    (released : Account.of later = state.returns Kind.killCommand late) :
    ∃ ended, Account.Settled (launching settings projection) Kind.killCommand ended
      (Account.of (log ++ later)) := by
  cases attempted with
  | exhausted failed =>
      obtain ⟨ended, settled⟩ := failed.settled
      refine ⟨ended ++ [], ?_⟩
      rw [Account.of_append, released]
      exact settled.append (.nothing late)
  | up order failed noted =>
      obtain ⟨former, settled⟩ := failed.settled
      have returned : Returned (launching settings projection) Kind.killCommand _ none _ :=
        ⟨_, _, later, late, rfl, noted, released⟩
      obtain ⟨latter, returned⟩ := returned.settled
      refine ⟨former ++ latter, ?_⟩
      rw [List.append_assoc, Account.of_append]
      exact settled.append returned

/-- No command that kills a grabber asks for the screen size. -/
theorem ne_sizing {operation : Operation}
    (underway : Underway (launching settings projection) Kind.killCommand log state operation)
    (releases : operation.isRelease = true) : operation ≠ .request (.shell sizeCommand) := by
  rintro rfl
  cases underway with
  | acquiring _ acquires => cases acquires
  | releasing _ interrupted =>
      obtain ⟨kind, told⟩ := interrupted.told
      cases kind <;> revert told <;> decide

/-- The request for the screen size acquires nothing. -/
theorem Started.settled {result : Except Fault Banner}
    (started : Started settings log state result)
    (released : Account.of later = state.returns Kind.killCommand late) :
    ∃ projection ended, Account.Settled (launching settings projection) Kind.killCommand ended
      (Account.of (log ++ later).tail) := by
  cases started with
  | silent | unsized _ => exact ⟨⟨0, 0, 0, 0, 0⟩, [], by simpa [released] using .nothing late⟩
  | attempted _ attempted => exact ⟨_, attempted.settled released⟩

/-- A grabber's start is dropped and its session is stopped. Behind the request for the screen size,
everything is given back, unless the start waited for a release of its own. -/
theorem dropped_settled_iff (settings : Settings) (world later : World ω) (count : Nat)
    (outside : ω) :
    let dropped := (start settings {}).drop world.recorded count (outside, [])
    let stopped := (stop dropped.1).run later.recorded dropped.2
    (∃ projection ended, Account.Settled (launching settings projection) Kind.killCommand ended
        (Account.of stopped.2.2.2.tail)) ↔
      ∀ operation ∈ (start settings {}).awaited world.recorded count (outside, []),
        operation.isRelease = true → operation = .request (.shell sizeCommand) := by
  have kept := (start_keeps settings).drop world count outside
  generalize (start settings {}).drop world.recorded count (outside, []) = dropped at kept ⊢
  generalize (start settings {}).awaited world.recorded count (outside, []) = awaited at kept ⊢
  obtain ⟨state, outside, log⟩ := dropped
  intro _ stopped
  obtain ⟨-, released, late, split, account⟩ :=
    release_returns Kind.killCommand state later outside log
  have split : stopped.2.2.2 = log ++ released := split
  rw [split]
  cases awaited with
  | none =>
      obtain ⟨result, started⟩ := kept
      exact iff_of_true (started.settled account) (by simp)
  | some operation =>
      cases kept with
      | sizing =>
          rw [← split]
          exact iff_of_true ⟨⟨0, 0, 0, 0, 0⟩, [], .nothing none⟩ (by simp)
      | attempting _ attempting =>
          obtain ⟨kinds, earlier, own, rfl, failed, underway⟩ := attempting
          obtain ⟨former, settled⟩ := failed.settled
          rw [List.cons_append, List.tail_cons, List.append_assoc, Account.of_append]
          cases releases : operation.isRelease with
          | false =>
              obtain ⟨latter, returned⟩ := underway.settled releases account
              exact iff_of_true ⟨_, _, settled.append returned⟩ (by simp [releases])
          | true =>
              refine iff_of_false ?_ (by simp [releases, ne_sizing underway releases])
              rintro ⟨_, _, all⟩
              exact all.not_lossy (settled.append_lossy (underway.lossy releases account))

end Screencast.Grabber.Session

namespace Screencast.Device

open Procedure

variable {ω : Type}

/-- A start is cancelled anywhere and its session is stopped. Everything is given back if and only if
the start did not wait for a release inside its own teardown. -/
theorem cancelled_starts_settled_iff (recorder : Recorder.Settings) (serial : String)
    (grabber : Grabber.Settings) (world later : World ω) (count : Nat) (outside : ω) :
    (let start := Recorder.Session.start recorder serial {}
      let dropped := start.drop world.recorded count (outside, [])
      let stopped := (Recorder.Session.stop dropped.1).run later.recorded dropped.2
      (∃ ended, Account.Settled (Recorder.Session.launching recorder) Recorder.Session.killing ended
          (Account.of stopped.2.2.2)) ↔
        ∀ operation ∈ start.awaited world.recorded count (outside, []),
          operation.isRelease = false) ∧
    (let start := Grabber.Session.start grabber {}
      let dropped := start.drop world.recorded count (outside, [])
      let stopped := (Grabber.Session.stop dropped.1).run later.recorded dropped.2
      (∃ projection ended, Account.Settled (Grabber.Session.launching grabber projection)
          Grabber.Kind.killCommand ended (Account.of stopped.2.2.2.tail)) ↔
        ∀ operation ∈ start.awaited world.recorded count (outside, []),
          operation.isRelease = true →
            operation = .request (.shell Grabber.Session.sizeCommand)) := by
  constructor
  · exact Recorder.Session.dropped_settled_iff recorder serial world later count outside
  · exact Grabber.Session.dropped_settled_iff grabber world later count outside

/-- Nothing listens behind the forwarded TCP ports of this world. -/
def deafWorld : World Unit
  | .request _, _ => (.ok "", ())
  | .spawn _, _ => (.ok 7, ())
  | .kill _, _ => ((), ())
  | .reservePort, _ => (.ok 27183, ())
  | .pause _, _ => ((), ())
  | .connect hostPort _ attempts _, _ =>
      (.error (.connectExhausted ("127.0.0.1:" ++ toString hostPort) attempts), ())
  | .greet .., _ => (.error .cancelled, ())
  | .awaitReady .., _ => (.ok (), ())
  | .readBanner .., _ => (.error .cancelled, ())

/-- The connection failed, and the start is cancelled while it waits for the removal of its forward.
The stop behind it no longer knows of the forward, and kills the process only. -/
theorem cancelled_removal_lost :
    let start := Recorder.Session.start { localPort := some 27183 } "dev1" {}
    let dropped := start.drop deafWorld.recorded 5 ((), [])
    let stopped := (Recorder.Session.stop dropped.1).run deafWorld.recorded dropped.2
    start.awaited deafWorld.recorded 5 ((), []) = some (.request (.removeForward 27183)) ∧
      (Account.of stopped.2.2.2).forwards = [27183] ∧
      (Account.of stopped.2.2.2).removals = [] ∧
      (Account.of stopped.2.2.2).kills = [7] := by
  decide

end Screencast.Device
