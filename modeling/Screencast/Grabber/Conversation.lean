/-
This file reads a grabber's socket: first the banner, then the images.
-/

import Screencast.Grabber.Banner
import Screencast.Grabber.Framing
import Screencast.SourceEvent

namespace Screencast.Grabber.Conversation

/-- A banner that is cut off fails by the way in which the socket ended. -/
def shortBanner : SocketEnd → Fault
  | .closed => Banner.earlyEnd
  | .held => .timeout .grabberBanner
  | .broken text => .transport ⟨.other, text⟩

/-- This reads the banner and leaves the reads behind it. -/
def readBanner (reads : List Octets) (ending : SocketEnd) :
    Except Fault (Banner × List Octets) :=
  match Banner.read reads with
  | .ok result => .ok result
  | .error fault => .error (if fault = Banner.earlyEnd then shortBanner ending else fault)

/-- A defect ends the stream. Otherwise the stream ends as the socket did. -/
def ended? (limit : Nat) (defect : Option FramingDefect) (ending : SocketEnd) :
    Option SourceEvent :=
  match defect, ending with
  | some .tooLarge, _ => some (.ended (some (Fault.grabber (.frameTooLarge limit)).message))
  | some .remainder, .closed =>
      some (.ended (some (Fault.transport ⟨.other, FramingDefect.remainder.text⟩).message))
  | none, .closed => some (.ended none)
  | _, .broken text => some (.ended (some (Fault.transport ⟨.other, text⟩).message))
  | _, .held => none

/-- This is what the stream sends after the banner. -/
def events (framer : Framer) (limit : Nat) (reads : List Octets) (ending : SocketEnd) :
    List SourceEvent :=
  let (images, defect) := framer (.images limit) reads
  images.map .data ++ (ended? limit defect ending).toList

/-- This is the whole conversation over one socket. -/
def converse (framer : Framer) (limit : Nat) (reads : List Octets) (ending : SocketEnd) :
    Except Fault (Banner × List SourceEvent) := do
  let (banner, reads) ← readBanner reads ending
  return (banner, events framer limit reads ending)

end Screencast.Grabber.Conversation
