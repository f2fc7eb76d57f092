/-
This file defines what a session holds while a program of some kind runs on its device, and how it
lets go of it. Everything that is acquired is noted at once, so that one release frees it after a
success and after a failure.
-/

import Screencast.Device.Procedure

namespace Screencast.Device

/-- A session notes what it holds. The active program is the one whose stream is read. -/
structure Session (κ : Type) where
  process : Option (κ × ProcessId) := none
  forwarded : Option UInt16 := none
  reading : Option SocketId := none
  active : Option κ := none
  deriving DecidableEq, Repr

namespace Session

variable {κ : Type}

/-- This launches a program. -/
def launch (kind : κ) (command : String) : ExceptT Fault (Task (Session κ)) ProcessId := do
  let process ← Task.attempt (Task.perform (.spawn command))
  modify fun session => { session with process := some (kind, process) }
  return process

/-- A session has a fixed TCP port or reserves a free one. -/
def choosePort (fixed : Option UInt16) : ExceptT Fault (Task (Session κ)) UInt16 :=
  match fixed with
  | some hostPort => pure hostPort
  | none => Task.attempt (Task.perform .reservePort)

/-- This lets a TCP port of the host lead to a socket of the device. -/
def forward (fixed : Option UInt16) (remote : String) :
    ExceptT Fault (Task (Session κ)) UInt16 := do
  let hostPort ← choosePort fixed
  let _ ← Task.attempt (Task.perform (.request (.forward hostPort remote)))
  modify fun session => { session with forwarded := some hostPort }
  return hostPort

/-- From here on the stream of the program is read. -/
def beginReading (kind : κ) (socket : SocketId) : ExceptT Fault (Task (Session κ)) Unit :=
  modify fun session => { session with reading := some socket, active := some kind }

/-- A forwarded TCP port is forgotten before its removal, so it is removed once. -/
def unforward : Task (Session κ) Unit := do
  match (← get).forwarded with
  | none => return
  | some hostPort =>
      modify fun session => { session with forwarded := none }
      let _ ← Task.perform (.request (.removeForward hostPort))

/-- The end of the local process does not always reach the device, so the program is killed there
too. -/
def endProcess (killCommand : κ → String) : Task (Session κ) Unit := do
  match (← get).process with
  | none => return
  | some (kind, process) =>
      modify fun session => { session with process := none }
      Task.perform (.kill process)
      let _ ← Task.perform (.request (.shell (killCommand kind)))

/-- Failures on the way are ignored. -/
def release (killCommand : κ → String) : Task (Session κ) Unit := do
  modify fun session => { session with reading := none }
  unforward
  endProcess killCommand
  modify fun session => { session with active := none }

end Session

end Screencast.Device
