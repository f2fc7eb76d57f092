/-
This file compares a recorder's starts and stops with the accounts of what they exchange.
-/

import Screencast.Recorder.Session
import Screencast.Proofs.Device.Holding

namespace Screencast.Recorder.Session

open Device Procedure Device.Session

variable {ω : Type}

/-- The settings choose what is launched. -/
abbrev launching (settings : Settings) : Generation → String := fun _ => settings.launchCommand

/-- Both generations are killed by the same command. -/
abbrev killing : Generation → String := fun _ => killCommand

/-- A start holds what it acquired until it succeeded or failed. -/
def Holding (settings : Settings) (log : List Exchange) (state : Session) :
    Except Fault DeviceInfo → Prop
  | .ok _ => Noted (launching settings) [settings.generation] none log state
  | .error fault => ∃ tried, Noted (launching settings) tried (some fault) log state

/-- Each failure point leaves what was acquired before it. -/
theorem tryStart_keeps (settings : Settings) (serial : String) :
    ((tryStart settings serial).run {}).Keeps (Underway (launching settings) killing)
      (Holding settings) [] := by
  -- The operations are followed in their order, each with what is noted behind it.
  have new : Noted (launching settings) [] none [] {} := .new
  refine .wait (.acquiring new rfl) fun pushed => ?_
  cases pushed with
  | error fault => exact .done ⟨[], new.neutral (.request (.push ..)) rfl (.error fault)⟩
  | ok output =>
  have deployed := new.neutral (.request (.push settings.serverFile settings.remotePath)) rfl
    (.ok output)
  refine .wait (.acquiring deployed rfl) fun spawned => ?_
  cases spawned with
  | error fault => exact .done ⟨_, deployed.unlaunched settings.generation fault⟩
  | ok process =>
  have running := deployed.launched rfl settings.generation process
  refine .bind (running.forward_keeps rfl killing settings.localPort settings.remoteSocket) ?_
  rintro log state result forwarding
  cases result with
  | error fault => exact .done ⟨_, forwarding.2⟩
  | ok hostPort =>
  obtain ⟨rfl, forwarded⟩ := forwarding
  refine .wait (.acquiring forwarded rfl) fun paused => ?_
  have settled := forwarded.neutral (.pause settings.settleDelay) rfl paused
  refine .wait (.acquiring settled rfl) fun connected => ?_
  cases connected with
  | error fault => exact .done ⟨_, settled.neutral (.connect ..) rfl (.error fault)⟩
  | ok socket =>
  have connected := settled.neutral (.connect hostPort .anyFault settings.connectAttempts
    settings.connectDelay) rfl (.ok socket)
  refine .wait (.acquiring connected rfl) fun greeted => ?_
  cases greeted with
  | error fault => exact .done ⟨_, connected.neutral (.greet ..) rfl (.error fault)⟩
  | ok info =>
  have greeted := connected.neutral (.greet socket (.ofSettings settings serial)
    settings.greetingLimit) rfl (.ok info)
  exact .done (greeted.reading (some socket) (some settings.generation))

/-- A start holds what it acquired, or it failed and gave everything back. -/
def Started (settings : Settings) (log : List Exchange) (state : Session) :
    Except Fault DeviceInfo → Prop
  | .ok _ => Noted (launching settings) [settings.generation] none log state
  | .error fault =>
      state = {} ∧ ∃ tried, Returned (launching settings) killing tried (some fault) log

theorem start_keeps (settings : Settings) (serial : String) :
    (start settings serial {}).Keeps (Underway (launching settings) killing) (Started settings)
      [] := by
  refine .bind (tryStart_keeps settings serial) ?_
  intro log state result holding
  cases result with
  | ok info => exact .done holding
  | error fault =>
      obtain ⟨tried, noted⟩ := holding
      refine .bind (noted.release_keeps killing) ?_
      rintro log state _ ⟨new, returned⟩
      exact .done ⟨new, tried, returned⟩

/-- A release behind a start completes what is given back. -/
theorem Started.returned {settings : Settings} {log later : List Exchange} {state : Session}
    {result : Except Fault DeviceInfo} {late : Option Fault}
    (started : Started settings log state result)
    (released : Account.of later = state.returns killing late) :
    ∃ tried fault, Returned (launching settings) killing tried fault (log ++ later) := by
  cases result with
  | ok info => exact ⟨_, _, state, log, later, late, rfl, started, released⟩
  | error fault =>
      obtain ⟨rfl, tried, returned⟩ := started
      exact ⟨tried, _, returned.again released⟩

/-- In every world, a failed start reports the first failure and has given everything back, so that a
stop exchanges nothing. After any start and a stop, everything was given back, the session is new,
and another stop exchanges nothing. -/
theorem start_stop_returns (settings : Settings) (serial : String) (world later : World ω)
    (outside : ω) :
    let started := (start settings serial {}).run world.recorded (outside, [])
    let stopped := (stop started.2.1).run later.recorded started.2.2
    Started settings started.2.2.2 started.2.1 started.1 ∧
      (∀ fault, started.1 = .error fault → stopped = ((), {}, started.2.2)) ∧
      (∃ tried fault, Returned (launching settings) killing tried fault stopped.2.2.2) ∧
      stopped.2.1 = {} ∧
      ∀ (again : World ω) (outside : ω),
        (stop stopped.2.1).run again outside = ((), {}, outside) := by
  intro started stopped
  have begun : Started settings started.2.2.2 started.2.1 started.1 :=
    (start_keeps settings serial).run world outside
  obtain ⟨new, released, late, split, account⟩ :=
    release_returns killing started.2.1 later started.2.2.1 started.2.2.2
  refine ⟨begun, ?_, split ▸ begun.returned account, new, ?_⟩
  · intro fault failure
    rw [failure] at begun
    simp only [stopped, stop, begun.1, release_new]
  · intro again outside
    exact (congrArg (fun state => (stop state).run again outside) new).trans
      (release_new killing again outside)

end Screencast.Recorder.Session
