/-
This file compares what a session notes with the account of its log, while it acquires and while it
releases.
-/

import Screencast.Device.Session
import Screencast.Proofs.Device.Exchanges

namespace Screencast.Device

namespace Operation

/-- A session lets go of something by one of these operations. -/
def isRelease : Operation → Bool
  | .kill _ | .request (.removeForward _) | .request (.shell _) => true
  | _ => false

/-- These operations acquire nothing and release nothing. -/
def isNeutral : Operation → Bool
  | .request (.push ..) | .reservePort | .pause _ | .connect .. | .greet .. | .awaitReady ..
  | .readBanner .. => true
  | _ => false

end Operation

namespace Account

/-- These are the accounts of single releases. -/
theorem of_removal (hostPort : UInt16) (answer : Except Fault String) :
    of [⟨.request (.removeForward hostPort), answer⟩] =
      { removals := [hostPort]
        fault := Operation.fault? (.request (.removeForward hostPort)) answer } := by
  cases answer <;> rfl

theorem of_kill (process : ProcessId) (answer : Unit) :
    of [⟨.kill process, answer⟩] = { kills := [process] } := rfl

theorem of_shell (command : String) (answer : Except Fault String) :
    of [⟨.request (.shell command), answer⟩] =
      { shells := [command], fault := Operation.fault? (.request (.shell command)) answer } := by
  cases answer <;> rfl

end Account

namespace Session

variable {κ : Type} {launch kill : κ → String} {tried : List κ} {fault : Option Fault}
  {log : List Exchange} {session : Session κ}

/-- This is the account of a session that released nothing. Programs of some kinds were tried, and
there was at most one failure. -/
def holdings (launch : κ → String) (tried : List κ) (fault : Option Fault) (session : Session κ) :
    Account where
  forwards := session.forwarded.toList
  processes := session.process.toList.map fun held => (launch held.1, held.2)
  launches := tried.map launch
  fault := fault

/-- A session notes exactly what it acquired by its log. -/
structure Noted (launch : κ → String) (tried : List κ) (fault : Option Fault)
    (log : List Exchange) (session : Session κ) : Prop where
  account : Account.of log = session.holdings launch tried fault
  kinds : ∀ held ∈ session.process, held.1 ∈ tried

namespace Noted

/-- A new session notes nothing. -/
theorem new : Noted launch [] none [] {} := ⟨rfl, by simp⟩

/-- It does not matter which stream is read. -/
theorem reading (noted : Noted launch tried fault log session) (reading : Option SocketId)
    (active : Option κ) : Noted launch tried fault log { session with reading, active } :=
  ⟨noted.account, noted.kinds⟩

/-- An operation that acquires nothing may fail. -/
theorem neutral (noted : Noted launch tried none log session) (operation : Operation)
    (neutral : operation.isNeutral = true) (answer : operation.Answer) :
    Noted launch tried (operation.fault? answer) (log ++ [⟨operation, answer⟩]) session := by
  have single : Account.of [⟨operation, answer⟩] = { fault := operation.fault? answer } := by
    cases operation with
    | request request =>
        cases request with
        | push => cases answer <;> rfl
        | shell | forward | removeForward => cases neutral
    | spawn | kill => cases neutral
    | pause => rfl
    | reservePort | connect | greet | awaitReady | readBanner => cases answer <;> rfl
  refine ⟨?_, noted.kinds⟩
  rw [Account.of_append, noted.account, single]
  simp [holdings, Account.append]

/-- A process is noted with its kind once it is launched. -/
theorem launched (noted : Noted launch tried none log session) (free : session.process = none)
    (kind : κ) (process : ProcessId) :
    Noted launch (tried ++ [kind]) none (log ++ [⟨.spawn (launch kind), .ok process⟩])
      { session with process := some (kind, process) } := by
  have single : Account.of [⟨.spawn (launch kind), .ok process⟩] =
      { processes := [(launch kind, process)], launches := [launch kind] } := rfl
  refine ⟨?_, by simp⟩
  rw [Account.of_append, noted.account, single]
  simp [holdings, Account.append, free]

theorem unlaunched (noted : Noted launch tried none log session) (kind : κ) (fault : Fault) :
    Noted launch (tried ++ [kind]) (some fault) (log ++ [⟨.spawn (launch kind), .error fault⟩])
      session := by
  have single : Account.of [⟨.spawn (launch kind), .error fault⟩] =
      { launches := [launch kind], fault := some fault } := rfl
  refine ⟨?_, fun held member => List.mem_append_left _ (noted.kinds held member)⟩
  rw [Account.of_append, noted.account, single]
  simp [holdings, Account.append]

/-- A forward is noted once the request succeeded. -/
theorem forwarded (noted : Noted launch tried none log session) (free : session.forwarded = none)
    (hostPort : UInt16) (remote output : String) :
    Noted launch tried none (log ++ [⟨.request (.forward hostPort remote), .ok output⟩])
      { session with forwarded := some hostPort } := by
  have single : Account.of [⟨.request (.forward hostPort remote), .ok output⟩] =
      { forwards := [hostPort] } := rfl
  refine ⟨?_, noted.kinds⟩
  rw [Account.of_append, noted.account, single]
  simp [holdings, Account.append, free]

theorem unforwarded (noted : Noted launch tried none log session) (hostPort : UInt16)
    (remote : String) (fault : Fault) :
    Noted launch tried (some fault)
      (log ++ [⟨.request (.forward hostPort remote), .error fault⟩]) session := by
  have single : Account.of [⟨.request (.forward hostPort remote), .error fault⟩] =
      { fault := some fault } := rfl
  refine ⟨?_, noted.kinds⟩
  rw [Account.of_append, noted.account, single]
  simp [holdings, Account.append]

end Noted

/-- This is the account of a release. Its operations may fail, and it goes on. -/
def returns (kill : κ → String) (late : Option Fault) (session : Session κ) : Account where
  removals := session.forwarded.toList
  kills := session.process.toList.map Prod.snd
  shells := session.process.toList.map fun held => kill held.1
  fault := late

/-- A release waits for one of these operations. What it is about is no longer noted then. -/
inductive Interrupted (kill : κ → String) (session : Session κ) :
    Account → Session κ → Operation → Prop
  | removal {hostPort : UInt16} (held : session.forwarded = some hostPort) :
      Interrupted kill session {} { session with reading := none, forwarded := none }
        (.request (.removeForward hostPort))
  | kill {kind : κ} {process : ProcessId} (late : Option Fault)
      (held : session.process = some (kind, process)) :
      Interrupted kill session { removals := session.forwarded.toList, fault := late }
        { active := session.active } (.kill process)
  | shell {kind : κ} {process : ProcessId} (late : Option Fault)
      (held : session.process = some (kind, process)) :
      Interrupted kill session
        { removals := session.forwarded.toList, kills := [process], fault := late }
        { active := session.active } (.request (.shell (kill kind)))

/-- The process is ended behind the removal of the forward, if there was one. -/
theorem endProcess_keeps (kill : κ → String) (session : Session κ) {removed : List Exchange}
    {late : Option Fault}
    (account : Account.of removed = { removals := session.forwarded.toList, fault := late }) :
    ((endProcess kill { process := session.process, active := session.active }).bind
        fun _ state => .done { state with active := none } ()).Keeps
      (fun log state operation => session.Interrupted kill (Account.of log) state operation)
      (fun log state _ => state = {} ∧ ∃ late, Account.of log = session.returns kill late)
      removed := by
  obtain ⟨process, forwarded, reading, active⟩ := session
  cases process with
  | none => exact .done ⟨rfl, late, account⟩
  | some held =>
      obtain ⟨kind, process⟩ := held
      refine .wait (account ▸ .kill late rfl) fun killed => ?_
      have second : Account.of (removed ++ [⟨.kill process, killed⟩]) =
          { removals := forwarded.toList, kills := [process], fault := late } := by
        rw [Account.of_append, account, Account.of_kill]
        simp [Account.append]
      refine .wait (second ▸ .shell late rfl) fun told => ?_
      refine .done ⟨rfl, late.or (Operation.fault? (.request (.shell (kill kind))) told), ?_⟩
      rw [Account.of_append, second, Account.of_shell]
      simp [Account.append, returns]

/-- A release leaves a new session and gives back everything that was noted. -/
theorem release_keeps (kill : κ → String) (session : Session κ) :
    (release kill session).Keeps
      (fun log state operation => session.Interrupted kill (Account.of log) state operation)
      (fun log state _ => state = {} ∧ ∃ late, Account.of log = session.returns kill late) [] := by
  obtain ⟨process, forwarded, reading, active⟩ := session
  cases forwarded with
  | none => exact endProcess_keeps kill ⟨process, none, reading, active⟩ rfl
  | some hostPort =>
      refine .wait (.removal rfl) fun removed => ?_
      exact endProcess_keeps kill ⟨process, some hostPort, reading, active⟩
        (Account.of_removal hostPort removed)

/-- A log ends with a release of exactly what was acquired before it. -/
def Returned (launch kill : κ → String) (tried : List κ) (fault : Option Fault)
    (log : List Exchange) : Prop :=
  ∃ (held : Session κ) (acquired released : List Exchange) (late : Option Fault),
    log = acquired ++ released ∧ Noted launch tried fault acquired held ∧
      Account.of released = held.returns kill late

/-- Nothing more is given back by the release of a new session. -/
theorem Returned.again (returned : Returned launch kill tried fault log)
    {later : List Exchange} {late : Option Fault}
    (released : Account.of later = ({} : Session κ).returns kill late) :
    Returned launch kill tried fault (log ++ later) := by
  obtain ⟨held, acquired, first, former, rfl, noted, account⟩ := returned
  refine ⟨held, acquired, first ++ later, former.or late, List.append_assoc _ _ _, noted, ?_⟩
  rw [Account.of_append, account, released]
  simp [Account.append, returns]

/-- A task waits for an operation while it acquires or while it gives back. -/
inductive Underway (launch kill : κ → String) : List Exchange → Session κ → Operation → Prop
  | acquiring {tried : List κ} {log : List Exchange} {session : Session κ} {operation : Operation}
      (noted : Noted launch tried none log session) (acquires : operation.isRelease = false) :
      Underway launch kill log session operation
  | releasing {tried : List κ} {fault : Option Fault} {acquired released : List Exchange}
      {held session : Session κ} {operation : Operation}
      (noted : Noted launch tried fault acquired held)
      (interrupted : held.Interrupted kill (Account.of released) session operation) :
      Underway launch kill (acquired ++ released) session operation

/-- Everything that a session noted is given back by its release. -/
theorem Noted.release_keeps (noted : Noted launch tried fault log session) (kill : κ → String) :
    (release kill session).Keeps (Underway launch kill)
      (fun later state _ => state = {} ∧ Returned launch kill tried fault later) log := by
  refine ((Session.release_keeps kill session).behind (List.append_nil log).symm).weaken ?_ ?_
  · rintro _ state operation ⟨released, rfl, interrupted⟩
    exact .releasing noted interrupted
  · rintro _ state _ ⟨released, rfl, rfl, late, account⟩
    exact ⟨rfl, session, log, released, late, rfl, noted, account⟩

/-- A release only adds what it gives back. -/
theorem release_returns {ω : Type} (kill : κ → String) (session : Session κ)
    (world : Procedure.World ω) (outside : ω) (log : List Exchange) :
    let ended := (release kill session).run world.recorded (outside, log)
    ended.2.1 = {} ∧ ∃ released late,
      ended.2.2.2 = log ++ released ∧ Account.of released = session.returns kill late := by
  intro ended
  obtain ⟨released, split, new, late, account⟩ :=
    ((release_keeps kill session).behind (List.append_nil log).symm).run world outside
  exact ⟨new, released, late, split, account⟩

/-- Nothing is left to release in a new session. -/
theorem release_new {ω : Type} (kill : κ → String) (world : Procedure.World ω) (outside : ω) :
    (release kill ({} : Session κ)).run world outside = ((), {}, outside) := rfl

/-- A forward is noted with its TCP port, or the session stays as it was. -/
def Forwarding (launch : κ → String) (tried : List κ) (session : Session κ)
    (log : List Exchange) (state : Session κ) : Except Fault UInt16 → Prop
  | .ok hostPort =>
      state = { session with forwarded := some hostPort } ∧ Noted launch tried none log state
  | .error fault => state = session ∧ Noted launch tried (some fault) log state

/-- This holds for a fixed TCP port and for a reserved one. -/
theorem Noted.forward_keeps (noted : Noted launch tried none log session)
    (free : session.forwarded = none) (kill : κ → String) (fixed : Option UInt16)
    (remote : String) :
    ((Session.forward fixed remote).run session).Keeps (Underway launch kill)
      (Forwarding launch tried session) log := by
  have requested (hostPort : UInt16) {log : List Exchange}
      (noted : Noted launch tried none log session) :
      ((Session.forward (some hostPort) remote).run session).Keeps (Underway launch kill)
        (Forwarding launch tried session) log := by
    refine .wait (.acquiring noted rfl) fun answer => ?_
    cases answer with
    | error fault => exact .done ⟨rfl, noted.unforwarded hostPort remote fault⟩
    | ok output => exact .done ⟨rfl, noted.forwarded free hostPort remote output⟩
  cases fixed with
  | some hostPort => exact requested hostPort noted
  | none =>
      refine .wait (.acquiring noted rfl) fun answer => ?_
      cases answer with
      | error fault => exact .done ⟨rfl, noted.neutral .reservePort rfl (.error fault)⟩
      | ok hostPort => exact requested hostPort (noted.neutral .reservePort rfl (.ok hostPort))

end Session

end Screencast.Device
