/-
This file plays a device by a script. The stand-in answers every operation of a session and writes
down the calls that reach it.
-/

import Screencast.Grabber.Conversation
import Screencast.Grabber.Readiness
import Screencast.Grabber.Session
import Screencast.Recorder.Conversation

namespace Screencast.Rehearsal

open Device

/-- A rehearsal takes place on a host with a loopback network or without any network. -/
inductive Network
  | loopback
  | absent
  deriving DecidableEq, Repr

/-- Without a network every connection fails in the same way. -/
def Network.reach : Network → (listens : Bool) → Except TransportFault Unit
  | .absent, _ => .error ⟨.other, "Network is unreachable (os error 101)"⟩
  | .loopback, true => .ok ()
  | .loopback, false => .error ⟨.refused, "Connection refused (os error 111)"⟩

/-- A connection in a rehearsal can always send without delay. -/
def Network.connect (network : Network) (listens : Bool) : Attempt Unit :=
  match network.reach listens with
  | .ok () => .connected () (.ok ())
  | .error fault => .failed fault

/-- The script of a process says what it prints and what its socket sends. -/
structure Script where
  /-- The script is for commands that contain this text. -/
  part : String := ""
  lines : List String := []
  alive : Bool := true
  listens : Bool := true
  reads : List Octets := []
  /-- The socket stays open behind its last read. -/
  held : Bool := false
  deriving DecidableEq, Repr

/-- Each kind of call may be told to fail. -/
structure Failures where
  push : Option String := none
  shell : Option String := none
  /-- This is for the shell command that reports the screen size. -/
  size : Option String := none
  spawn : Option String := none
  forward : Option String := none
  removeForward : Option String := none
  deriving DecidableEq, Repr

/-- A stand-in remembers its calls, its processes and its sockets. -/
structure StandIn where
  serial : String
  network : Network
  screenSize : String := ""
  scripts : List Script := []
  failures : Failures := {}
  /-- The sockets are reset once their events were read. -/
  resets : Bool := false
  calls : List String := []
  processes : List Script := []
  sockets : List Script := []
  deriving Repr

namespace StandIn

/-- TCP ports differ from run to run, so this word stands for their number. -/
def anyPort : String := "PORT"

/-- A call is written down with the serial number behind its name. -/
def callText (serial : String) : Request → String
  | .push file remotePath => "push " ++ serial ++ " " ++ file ++ " " ++ remotePath
  | .shell command => "shell " ++ serial ++ " " ++ command
  | .forward _ remote => "forward " ++ serial ++ " tcp:" ++ anyPort ++ " " ++ remote
  | .removeForward _ => "remove_forward " ++ serial ++ " tcp:" ++ anyPort

def record (standIn : StandIn) (call : String) : StandIn :=
  { standIn with calls := standIn.calls ++ [call] }

def failure? (failures : Failures) : Request → Option String
  | .push .. => failures.push
  | .shell command => if command = Grabber.Session.sizeCommand then failures.size else failures.shell
  | .forward .. => failures.forward
  | .removeForward _ => failures.removeForward

/-- Every shell command prints the screen size, and other requests print nothing. -/
def output (standIn : StandIn) : Request → String
  | .shell _ => standIn.screenSize
  | _ => ""

def orFailure {α : Type} (value : α) : Option String → Except Fault α
  | none => .ok value
  | some text => .error (.bridge text)

/-- A command follows the first script that is for it. -/
def scriptFor (standIn : StandIn) (command : String) : Script :=
  (standIn.scripts.find? fun script =>
    Text.contains script.part.toList command.toList).getD {}

/-- A launched command is the next process. -/
def launch (standIn : StandIn) (command : String) : Except Fault ProcessId × StandIn :=
  let called := standIn.record ("spawn " ++ standIn.serial ++ " " ++ command)
  (orFailure standIn.processes.length standIn.failures.spawn,
    match standIn.failures.spawn with
    | none => { called with processes := standIn.processes ++ [standIn.scriptFor command] }
    | some _ => called)

def process (standIn : StandIn) (process : ProcessId) : Script := standIn.processes.getD process {}

def socket (standIn : StandIn) (socket : SocketId) : Script := standIn.sockets.getD socket {}

/-- A forwarded TCP port leads to the newest process. -/
def connect (standIn : StandIn) (retry : Retry) (attempts : Nat) (delay : Span) :
    Except Fault SocketId × StandIn :=
  let script := standIn.processes.getLast?.getD {}
  match (Dialled.dial retry.allows ("127.0.0.1:" ++ anyPort) attempts delay
    fun _ => standIn.network.connect script.listens).result with
  | .ok _ => (.ok standIn.sockets.length, { standIn with sockets := standIn.sockets ++ [script] })
  | .error fault => (.error fault, standIn)

/-- A socket that will be reset is open until its events were read. -/
def opening (standIn : StandIn) (script : Script) : SocketEnd :=
  if standIn.resets || script.held then .held else .closed

/-- This is how the socket ends behind its last read. -/
def ending (standIn : StandIn) (script : Script) : SocketEnd :=
  if standIn.resets then .broken "Connection reset by peer (os error 104)"
  else if script.held then .held
  else .closed

def greet (standIn : StandIn) (script : Script) (greeting : Recorder.Greeting) (limit : Span) :
    Except Fault Recorder.DeviceInfo :=
  match Recorder.Conversation.readGreeting greeting [] script.reads with
  | .complete info _ _ => .ok info
  | .short received =>
      .error (Recorder.Conversation.shortGreeting received limit (standIn.opening script))

def awaitReady (script : Script) (kind : Grabber.Kind) : Except Fault Unit :=
  match Grabber.awaitReady kind ⟨script.lines, script.alive⟩ with
  | .ok _ => .ok ()
  | .error fault => .error (.grabber fault)

/-- The stand-in answers each operation by its script. -/
def world : Procedure.World StandIn
  | .request request, standIn =>
      (orFailure (standIn.output request) (failure? standIn.failures request),
        standIn.record (callText standIn.serial request))
  | .spawn command, standIn => standIn.launch command
  | .kill _, standIn => ((), standIn)
  | .reservePort, standIn => (.ok 0, standIn)
  | .pause _, standIn => ((), standIn)
  | .connect _ retry attempts delay, standIn => standIn.connect retry attempts delay
  | .greet socket greeting limit, standIn =>
      (standIn.greet (standIn.socket socket) greeting limit, standIn)
  | .awaitReady process kind _, standIn => (awaitReady (standIn.process process) kind, standIn)
  | .readBanner socket _, standIn =>
      let script := standIn.socket socket
      ((Grabber.Conversation.readBanner script.reads (standIn.opening script)).map Prod.fst, standIn)

/-- A recorder's stream follows its greeting. -/
def recorderEvents (standIn : StandIn) (settings : Recorder.Settings) (socket : SocketId) :
    List SourceEvent :=
  let script := standIn.socket socket
  match Recorder.Conversation.converse settings standIn.serial script.reads
    (standIn.ending script) with
  | .ok (_, events) => events
  | .error _ => []

/-- A grabber's stream follows its banner. -/
def grabberEvents (standIn : StandIn) (settings : Grabber.Settings) (socket : SocketId) :
    List SourceEvent :=
  let script := standIn.socket socket
  match Grabber.Conversation.converse Grabber.Framing.framer settings.maxFrameSize script.reads
    (standIn.ending script) with
  | .ok (_, events) => events
  | .error _ => []

end StandIn

end Screencast.Rehearsal
