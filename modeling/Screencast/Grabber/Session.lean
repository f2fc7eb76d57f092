/-
This file starts and stops a grabber on a device. The grabbers of the settings are tried one after
another, and each failed one is released before the next is launched.
-/

import Screencast.Device.Session
import Screencast.Grabber.DisplaySize
import Screencast.Grabber.Projection
import Screencast.Grabber.Settings

namespace Screencast.Grabber

open Device

/-- A session runs one grabber after another until one comes up. -/
abbrev Session := Device.Session Kind

namespace Session

/-- This shell command reports the size of the screen. -/
def sizeCommand : String := "wm size"

/-- Images have the size of the settings, or else the size of the screen. -/
def project (settings : Settings) (output : String) : Except Fault Projection :=
  match DisplaySize.parse output with
  | .error fault => .error (.grabber fault)
  | .ok (realWidth, realHeight) =>
      let (virtualWidth, virtualHeight) := settings.projectionSize.getD (realWidth, realHeight)
      .ok { realWidth, realHeight, virtualWidth, virtualHeight, rotation := settings.rotation }

/-- One grabber is launched, connected and asked for its banner. -/
def tryGrabber (settings : Settings) (projection : Projection) (kind : Kind) :
    ExceptT Fault (Task Session) Banner := do
  let process ← Session.launch kind
    (kind.command (projection.arguments settings.quality settings.frameRate))
  Task.attempt (Task.perform (.awaitReady process kind settings.readyLimit))
  let hostPort ← Session.forward settings.localPort settings.remoteSocket
  let socket ← Task.attempt (Task.perform
    (.connect hostPort .notListening settings.connectAttempts settings.connectDelay))
  let banner ← Task.attempt (Task.perform (.readBanner socket settings.bannerLimit))
  Session.beginReading kind socket
  return banner

/-- Each grabber is killed by its own command. -/
def stop : Task Session Unit := Session.release Kind.killCommand

/-- The first grabber that comes up sends the images. The names of those that were tried make up the
fault when none is left. -/
def tryEach (settings : Settings) (projection : Projection) (attempted : List String) :
    List Kind → Task Session (Except Fault Banner)
  | [] => return .error (.grabber (.exhausted (String.intercalate ", " attempted)))
  | kind :: rest => do
      let attempted := attempted ++ [kind.name]
      match ← (tryGrabber settings projection kind).run with
      | .ok banner => return .ok banner
      | .error _ =>
          stop
          tryEach settings projection attempted rest

/-- Without a known screen size no grabber is launched. -/
def start (settings : Settings) : Task Session (Except Fault Banner) := do
  match ← Task.perform (.request (.shell sizeCommand)) with
  | .error fault => return .error fault
  | .ok output =>
      match project settings output with
      | .error fault => return .error fault
      | .ok projection => tryEach settings projection [] settings.grabbers

end Session

end Screencast.Grabber
