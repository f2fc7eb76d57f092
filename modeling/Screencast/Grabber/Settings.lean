/-
This file holds the settings of a grabbing session.
-/

import Screencast.Grabber.Kind
import Screencast.Text.Span

namespace Screencast.Grabber

/-- A session is set up once for all its starts. -/
structure Settings where
  /-- The grabbers are tried in this order. -/
  grabbers : List Kind := Kind.defaultOrder
  quality : UInt8 := 80
  /-- Without a fixed rate the grabber chooses one. -/
  frameRate : Option UInt32 := none
  rotation : UInt32 := 0
  /-- Without a fixed size the images have the size of the screen. -/
  projectionSize : Option (UInt32 × UInt32) := none
  socketName : String := "minicap"
  /-- Without a fixed TCP port a free one is reserved. -/
  localPort : Option UInt16 := none
  readyLimit : Span := .ofSeconds 10
  connectAttempts : Nat := 5
  connectDelay : Span := .ofMilliseconds 100
  bannerLimit : Span := .ofSeconds 5
  maxFrameSize : Nat := 16777216
  eventCapacity : Nat := 64
  deriving DecidableEq, Repr

namespace Settings

/-- The other grabbers keep their usual order behind the preferred one. -/
def prefer (settings : Settings) (kind : Kind) : Settings :=
  { settings with grabbers := kind :: Kind.defaultOrder.filter (· ≠ kind) }

/-- A quality above 100 counts as 100. -/
def withQuality (settings : Settings) (quality : UInt8) : Settings :=
  { settings with quality := min quality 100 }

/-- A rotation counts within one turn. -/
def withRotation (settings : Settings) (degrees : UInt32) : Settings :=
  { settings with rotation := degrees % 360 }

/-- There is at least one attempt. -/
def withRetry (settings : Settings) (attempts : Nat) (delay : Span) : Settings :=
  { settings with connectAttempts := max attempts 1, connectDelay := delay }

/-- The grabber listens on this socket of the device. -/
def remoteSocket (settings : Settings) : String := "localabstract:" ++ settings.socketName

end Settings

end Screencast.Grabber
