/-
This file describes how a session works with its device. A procedure performs one operation after
another and may be dropped while it waits for any of them.
-/

import Screencast.Device.Dial
import Screencast.Device.Request
import Screencast.Grabber.Banner
import Screencast.Grabber.Kind
import Screencast.Recorder.Greeting

namespace Screencast.Device

/-- A process is known by a number of its own. -/
abbrev ProcessId := Nat

/-- A connection is known by a number of its own. -/
abbrev SocketId := Nat

/-- A procedure waits for these operations. -/
inductive Operation
  | request (request : Request)
  /-- This launches a command that goes on running. -/
  | spawn (command : String)
  | kill (process : ProcessId)
  | reservePort
  | pause (span : Span)
  | connect (hostPort : UInt16) (retry : Retry) (attempts : Nat) (delay : Span)
  | greet (socket : SocketId) (greeting : Recorder.Greeting) (limit : Span)
  | awaitReady (process : ProcessId) (kind : Grabber.Kind) (limit : Span)
  | readBanner (socket : SocketId) (limit : Span)
  deriving DecidableEq, Repr

/-- Each operation has its own kind of answer. -/
abbrev Operation.Answer : Operation → Type
  | .request _ => Except Fault String
  | .spawn _ => Except Fault ProcessId
  | .kill _ => Unit
  | .reservePort => Except Fault UInt16
  | .pause _ => Unit
  | .connect .. => Except Fault SocketId
  | .greet .. => Except Fault Recorder.DeviceInfo
  | .awaitReady .. => Except Fault Unit
  | .readBanner .. => Except Fault Grabber.Banner

/-- A procedure is done, or it waits for an operation. A waiting procedure shows the state that
remains when it is dropped. -/
inductive Procedure (σ α : Type) where
  | done (state : σ) (value : α)
  | wait (state : σ) (operation : Operation) (resume : operation.Answer → Procedure σ α)

namespace Procedure

/-- The second procedure begins with the value and the state of the first. -/
def bind {σ α β : Type} (next : α → σ → Procedure σ β) : Procedure σ α → Procedure σ β
  | .done state value => next value state
  | .wait state operation resume => .wait state operation fun answer => (resume answer).bind next

/-- A world answers every operation and may change. -/
abbrev World (ω : Type) := (operation : Operation) → ω → operation.Answer × ω

/-- This runs a procedure to its end. -/
def run {σ α ω : Type} (world : World ω) : Procedure σ α → ω → α × σ × ω
  | .done state value, outside => (value, state, outside)
  | .wait _ operation resume, outside =>
      let (answer, outside) := world operation outside
      (resume answer).run world outside

/-- This drops a procedure after some operations, unless it is done before. -/
def drop {σ α ω : Type} (world : World ω) : Procedure σ α → (count : Nat) → ω → σ × ω
  | .done state _, _, outside => (state, outside)
  | .wait state _ _, 0, outside => (state, outside)
  | .wait _ operation resume, count + 1, outside =>
      let (answer, outside) := world operation outside
      (resume answer).drop world count outside

end Procedure

/-- A task is a procedure that begins with the state of its session. -/
def Task (σ α : Type) := σ → Procedure σ α

namespace Task

instance {σ : Type} : Monad (Task σ) where
  pure value := fun state => .done state value
  bind task next := fun state => (task state).bind next

instance {σ : Type} : MonadStateOf σ (Task σ) where
  get := fun state => .done state state
  set state := fun _ => .done state ⟨⟩
  modifyGet change := fun state => .done (change state).2 (change state).1

/-- This performs one operation. -/
def perform {σ : Type} (operation : Operation) : Task σ operation.Answer :=
  fun state => .wait state operation fun answer => .done state answer

/-- A task whose answer is a failure ends the tasks behind it. -/
def attempt {σ α : Type} (task : Task σ (Except Fault α)) : ExceptT Fault (Task σ) α :=
  ExceptT.mk task

/-- A task that cannot fail goes on to the tasks behind it. -/
def always {σ α : Type} (task : Task σ α) : ExceptT Fault (Task σ) α := ExceptT.lift task

end Task

end Screencast.Device
