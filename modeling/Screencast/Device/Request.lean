/-
This file lists what a device is asked for through the bridge.
-/

import Screencast.Octets

namespace Screencast.Device

/-- A request runs to its end before it answers. -/
inductive Request
  /-- A file of the host is copied to the device. -/
  | push (file remotePath : String)
  | shell (command : String)
  /-- A TCP port of the host leads to a socket of the device. -/
  | forward (hostPort : UInt16) (remote : String)
  | removeForward (hostPort : UInt16)
  deriving DecidableEq, Repr

namespace Request

/-- A forwarded TCP port is named with its protocol. -/
def portText (hostPort : UInt16) : String := "tcp:" ++ toString hostPort

/-- The bridge program expects these arguments. -/
def arguments : Request → List String
  | .push file remotePath => ["push", file, remotePath]
  | .shell command => ["shell", command]
  | .forward hostPort remote => ["forward", portText hostPort, remote]
  | .removeForward hostPort => ["forward", "--remove", portText hostPort]

/-- The serial number of the device comes first. -/
def addressed (request : Request) (serial : String) : List String :=
  ["-s", serial] ++ request.arguments

end Request

end Screencast.Device
