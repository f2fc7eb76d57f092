/-
This file rehearses the gateway with clients. The devices have scripted sources.
-/

import Screencast.Gateway.Connection
import Screencast.Rehearsal.Stage
import Screencast.Rehearsal.StandIn
import Screencast.Text.Percent

namespace Screencast.Rehearsal

open Broadcast Gateway

/-- A client is a viewer of one station and keeps what it was sent. -/
structure Client where
  viewer : ViewerId
  position : Nat
  received : List Packet := []
  connected : Bool := true
  deriving DecidableEq, Repr

/-- Clients have names of their own. -/
structure Audience where
  settings : Gateway.Settings
  network : Network
  stage : Stage
  clients : List (String × Client) := []
  /-- This counts all connections that were ever made. -/
  admitted : Nat := 0
  deriving Repr

namespace Audience

def client? (audience : Audience) (name : String) : Option Client :=
  (audience.clients.find? fun entry => entry.1 = name).map Prod.snd

def setClient (audience : Audience) (name : String) (client : Client) : Audience :=
  { audience with
    clients := audience.clients.filter (fun entry => entry.1 ≠ name) ++ [(name, client)] }

/-- Every connected client receives what waits for it. -/
def settle (audience : Audience) : Audience :=
  audience.clients.foldl (fun audience entry =>
    let (name, client) := entry
    if client.connected then
      let (messages, stage) :=
        audience.stage.receive client.viewer (audience.stage.directory.mail.get client.viewer).capacity
      { audience with stage }.setClient name
        { client with received := client.received ++ messages.filterMap (Packet.ofMessage? .compact) }
    else audience) audience

/-- A client asks for the stream of a device and is let in or refused. -/
def connect (audience : Audience) (name segment : String) :
    Except TransportFault (Option Response × Audience) := do
  audience.network.reach true
  match Text.Percent.decode? segment with
  | none => return (some .malformedPath, audience)
  | some serial =>
      let present := (audience.clients.filter fun entry => entry.2.connected).length
      if audience.settings.admits present then
        let viewer := toString audience.admitted
        let (position, stage) := audience.stage.openStation serial
        let stage := stage.addViewer viewer audience.settings.queueCapacity
        return (none, { audience with stage, admitted := audience.admitted + 1 }.setClient name
          { viewer, position })
      else return (some .tooManyViewers, audience)

/-- A command that its station refuses is ignored. -/
def command (audience : Audience) (client : Client) (command : Stage.Command) : Audience :=
  let (_, stage) := audience.stage.batch client.position [command]
  { audience with stage }

/-- A text of a client that is no command is ignored. -/
def say (audience : Audience) (name text : String) : Audience :=
  match audience.client? name, ViewerCommand.parse? text with
  | some client, some (.on format) => audience.command client (.subscribe client.viewer format)
  | some client, some .off => audience.command client (.unsubscribe client.viewer)
  | _, _ => audience

/-- A client takes everything that it received. -/
def receive (audience : Audience) (name : String) : List Packet × Audience :=
  match audience.client? name with
  | none => ([], audience)
  | some client => (client.received, audience.setClient name { client with received := [] })

/-- A client that goes is answered with a close and leaves its station. -/
def leave (audience : Audience) (name : String) : Audience :=
  match audience.client? name with
  | none => audience
  | some client =>
      if client.connected then
        let left := audience.command client (.unsubscribe client.viewer)
        { left with stage := left.stage.hangUp client.viewer }.setClient name
          { client with connected := false, received := client.received ++ [Packet.close] }
      else audience

/-- A client waits for some packets. It answers every ping, so it is never silent for longer than
the time between two pings. -/
def await (audience : Audience) (name : String) (count : Nat) : List Packet × Audience :=
  match audience.client? name with
  | none => ([], audience)
  | some client =>
      let missing := count - client.received.length
      if !client.connected || missing = 0 then takeSome audience
      else
        match audience.settings.keepAlive audience.settings.pingInterval with
        | .close => takeSome (audience.leave name)
        | beat =>
            takeSome (audience.setClient name
              { client with received := client.received ++ List.replicate missing beat })
where
  /-- Packets that are not waited for stay with the client. -/
  takeSome (audience : Audience) : List Packet × Audience :=
    match audience.client? name with
    | none => ([], audience)
    | some client =>
        (client.received.take count,
          audience.setClient name { client with received := client.received.drop count })

/-- The gateway has one page, and it does not show a stream to a plain request. -/
def request (audience : Audience) (path : String) : Except TransportFault Response := do
  audience.network.reach true
  let segments := (path.splitOn "/").drop 1
  match segments with
  | ["stats"] => return .stations audience.stage.directory.openStations
  | ["screen", segment] => return if segment = "" then .notFound else .upgradeRequired
  | _ => return .notFound

/-- The gateway stops when its clients are gone, and then every station of the table shuts down. -/
def close (audience : Audience) : Audience :=
  let left := audience.clients.foldl (fun audience entry => audience.leave entry.1) audience
  { left with stage := left.stage.shutdownAll }

/-- A gateway cannot listen on an address that is taken, and then no station shuts down. -/
def listen (stage : Stage) (busy : Bool) : Except Fault Unit × Stage :=
  if busy then (.error (.transport ⟨.other, "Address already in use (os error 98)"⟩), stage)
  else (.ok (), stage.shutdownAll)

end Audience

end Screencast.Rehearsal
