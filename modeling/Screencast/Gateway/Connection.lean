/-
This file defines how the gateway serves one viewer: whether it is let in, what it is sent and what
its texts ask for.
-/

import Screencast.Broadcast.Station
import Screencast.Gateway.Protocol
import Screencast.Gateway.Settings

namespace Screencast.Gateway

/-- These go out to a viewer. -/
inductive Packet
  | text (content : String)
  | binary (payload : Octets)
  | close
  deriving DecidableEq, Repr

/-- Payloads are binary and everything else is text. An announcement that cannot be written is not
sent. -/
def Packet.ofMessage? (writer : Text.Json.Writer) : Broadcast.Message → Option Packet
  | .start info => (startMessage writer info).toOption.map .text
  | .frame payload => some (.binary payload)
  | .failure reason => some (.text (errorMessage writer reason))

/-- A plain request is answered with one of these. -/
inductive Response
  /-- This lists the counts of the open stations. -/
  | stations (stations : List Broadcast.Station)
  | refusal (status : Nat) (body : String)
  deriving DecidableEq, Repr

namespace Response

def status : Response → Nat
  | .stations _ => 200
  | .refusal status _ => status

/-- The gateway has no room for the viewer. -/
def tooManyViewers : Response := .refusal 503 "Too many viewers"

/-- A viewer's path asks for a connection that stays. -/
def upgradeRequired : Response := .refusal 400 "Connection header did not include 'upgrade'"

/-- A path segment is not text. -/
def malformedPath : Response := .refusal 400 "Invalid URL: Invalid UTF-8 in serial"

def notFound : Response := .refusal 404 ""

end Response

namespace Settings

/-- A viewer is let in while there are fewer connections than the limit. -/
def admits (settings : Settings) (connections : Nat) : Bool :=
  settings.maxConnections = 0 || connections < settings.maxConnections

/-- At the time of a ping, a viewer that was silent for too long is disconnected instead. -/
def keepAlive (settings : Settings) (silence : Span) : Packet :=
  if settings.idleLimit.nanoseconds < silence.nanoseconds then .close else .text ping

end Settings

end Screencast.Gateway
