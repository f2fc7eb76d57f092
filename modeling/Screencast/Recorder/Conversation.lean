/-
This file reads a recorder's socket: first the greeting, then the stream as packets.
-/

import Screencast.Fault
import Screencast.Recorder.Greeting
import Screencast.Recorder.Packetizer
import Screencast.SourceEvent

namespace Screencast.Recorder.Conversation

/-- The greeting was read, with octets of the stream behind it, or the reads ran out. -/
inductive Greeted
  | complete (info : DeviceInfo) (buffer : Octets) (reads : List Octets)
  | short (received : Nat)
  deriving DecidableEq, Repr

/-- The buffer is tried before each read. -/
def readGreeting (greeting : Greeting) (buffer : Octets) : (reads : List Octets) → Greeted
  | [] =>
      match greeting.process buffer with
      | (some info, _, rest) => .complete info rest []
      | (none, next, rest) => .short (next.received + rest.length)
  | read :: reads =>
      match greeting.process buffer with
      | (some info, _, rest) => .complete info rest (read :: reads)
      | (none, next, rest) => readGreeting next (rest ++ read) reads

/-- A short greeting fails by the way in which the socket ended. -/
def shortGreeting (received : Nat) (limit : Span) : SocketEnd → Fault
  | .closed => .greeting (.closed received)
  | .held => .greeting (.late limit)
  | .broken text => .transport ⟨.other, text⟩

/-- This is what the stream sends after the greeting. Octets behind the greeting are its first. -/
def events (buffer : Octets) (reads : List Octets) (ending : SocketEnd) : List SourceEvent :=
  let (packets, packetizer) := ({} : Packetizer).feedAll (buffer :: reads)
  let last := packetizer.finish.1.toList
  match ending with
  | .held => packets.map .data
  | .closed => (packets ++ last).map .data ++ [.ended none]
  | .broken text => (packets ++ last).map .data ++ [.ended (some text)]

/-- This is the whole conversation over one socket. -/
def converse (settings : Settings) (serial : String) (reads : List Octets) (ending : SocketEnd) :
    Except Fault (DeviceInfo × List SourceEvent) :=
  match readGreeting (.ofSettings settings serial) [] reads with
  | .complete info buffer reads => .ok (info, events buffer reads ending)
  | .short received => .error (shortGreeting received settings.greetingLimit ending)

end Screencast.Recorder.Conversation
