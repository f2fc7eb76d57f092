/-
This file reads the greeting with which a recorder introduces its stream. A legacy recorder sends
one header of fixed size. A versioned recorder sends only the parts that it was asked for.
-/

import Screencast.Octets
import Screencast.Recorder.Settings
import Screencast.Text.Blank
import Screencast.Text.Utf8

namespace Screencast.Recorder

/-- The recorder tells this about its device and stream. -/
structure DeviceInfo where
  name : String
  codec : UInt32 := 0
  width : UInt32 := 0
  height : UInt32 := 0
  deriving DecidableEq, Repr

namespace DeviceInfo

/-- A name ends at its first zero octet and loses the blanks around it. -/
def decodeName (nameField : Octets) : String :=
  Text.trim (Text.Utf8.decodeLossy (nameField.takeWhile (· ≠ 0)))

/-- An empty name leaves the name that is known already. -/
def withName (info : DeviceInfo) (nameField : Octets) : DeviceInfo :=
  let name := decodeName nameField
  if name.isEmpty then info else { info with name }

/-- The codec, the width and the height are three 32-bit numbers. -/
def withCodec (info : DeviceInfo) (codecField : Octets) : DeviceInfo :=
  let word (index : Nat) := (Octets.ofBigEndian ((codecField.drop (4 * index)).take 4)).toUInt32
  { info with codec := word 0, width := word 1, height := word 2 }

end DeviceInfo

/-- A greeting is made of these parts. -/
inductive Part
  | fixedHeader
  | dummy
  | deviceName
  | codec
  deriving DecidableEq, Repr

namespace Part

/-- The header of fixed size holds the three other parts. -/
def size : Part → Nat
  | .fixedHeader => 77
  | .dummy => 1
  | .deviceName => 64
  | .codec => 12

/-- The dummy octet tells nothing. -/
def apply (info : DeviceInfo) (octets : Octets) : Part → DeviceInfo
  | .fixedHeader => (info.withName ((octets.drop 1).take 64)).withCodec (octets.drop 65)
  | .dummy => info
  | .deviceName => info.withName octets
  | .codec => info.withCodec octets

end Part

/-- A greeting knows which parts are still to come. -/
structure Greeting where
  pending : List Part
  info : DeviceInfo
  /-- This counts the octets of the parts that were read. -/
  received : Nat := 0
  done : Bool := false
  deriving DecidableEq, Repr

namespace Greeting

/-- The device is known by another name until it gives its own. -/
def ofParts (parts : List Part) (name : String) : Greeting :=
  { pending := parts, info := { name } }

def fixed (name : String) : Greeting := ofParts [.fixedHeader] name

/-- The parts come in a fixed order. -/
def queued (dummy deviceName codec : Bool) (name : String) : Greeting :=
  ofParts ((if dummy then [.dummy] else []) ++ (if deviceName then [.deviceName] else []) ++
    if codec then [.codec] else []) name

/-- This is the greeting that the settings ask for. -/
def ofSettings (settings : Settings) (serial : String) : Greeting :=
  match settings.generation with
  | .legacy => fixed serial
  | .versioned => queued settings.sendDummy settings.sendName settings.sendCodec serial

/-- The next part needs this many octets. -/
def needed (greeting : Greeting) : Nat := (greeting.pending.head?.map Part.size).getD 0

/-- This reads as many parts as the buffer holds whole. -/
def consume (info : DeviceInfo) (received : Nat) (buffer : Octets) :
    List Part → Greeting × Octets
  | [] => ({ pending := [], info, received, done := true }, buffer)
  | part :: rest =>
      if buffer.length < part.size then ({ pending := part :: rest, info, received }, buffer)
      else
        consume (part.apply info (buffer.take part.size)) (received + part.size)
          (buffer.drop part.size) rest

/-- A greeting gives its information once, when its last part was read. -/
def process (greeting : Greeting) (buffer : Octets) : Option DeviceInfo × Greeting × Octets :=
  if greeting.done then (none, greeting, buffer)
  else
    let (next, rest) := consume greeting.info greeting.received buffer greeting.pending
    (if next.done then some next.info else none, next, rest)

end Greeting

end Screencast.Recorder
