/-
This file starts and stops a recorder on a device.
-/

import Screencast.Device.Session

namespace Screencast.Recorder

open Device

/-- A session runs one generation of the recorder. -/
abbrev Session := Device.Session Generation

namespace Session

/-- The recorder is deployed, launched, connected and greeted. -/
def tryStart (settings : Settings) (serial : String) : ExceptT Fault (Task Session) DeviceInfo := do
  let _ ← Task.attempt (Task.perform (.request (.push settings.serverFile settings.remotePath)))
  let _ ← Session.launch settings.generation settings.launchCommand
  let hostPort ← Session.forward settings.localPort settings.remoteSocket
  Task.always (Task.perform (.pause settings.settleDelay))
  let socket ← Task.attempt (Task.perform
    (.connect hostPort .anyFault settings.connectAttempts settings.connectDelay))
  let info ← Task.attempt (Task.perform
    (.greet socket (.ofSettings settings serial) settings.greetingLimit))
  Session.beginReading settings.generation socket
  return info

/-- Both generations are killed by the same command. -/
def stop : Task Session Unit := Session.release fun _ => killCommand

/-- A start that fails releases what it acquired and reports the first failure. -/
def start (settings : Settings) (serial : String) : Task Session (Except Fault DeviceInfo) := do
  match ← (tryStart settings serial).run with
  | .ok info => return .ok info
  | .error fault =>
      stop
      return .error fault

end Session

end Screencast.Recorder
