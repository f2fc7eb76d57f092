/-
This file defines the station of one device. It handles one input after another and owns both
sessions of the device and the units for late viewers.
-/

import Screencast.Broadcast.KeyframeStore
import Screencast.Broadcast.Session

namespace Screencast.Broadcast

/-- A station queues this many commands by default. -/
structure Settings where
  commandCapacity : Nat := 256
  deriving DecidableEq, Repr

/-- There is room for at least one command. -/
def Settings.withCommandCapacity (settings : Settings) (capacity : Nat) : Settings :=
  { settings with commandCapacity := max capacity 1 }

structure Station where
  serial : String
  store : KeyframeStore := {}
  h264 : Session := { format := .h264 }
  jpeg : Session := { format := .jpeg }
  isOpen : Bool := true
  deriving DecidableEq, Repr

/-- These are the inputs of a station. The queues of the viewers change on their own too. -/
inductive Input
  | subscribe (viewer : ViewerId) (format : Format)
  | unsubscribe (viewer : ViewerId)
  | started (format : Format) (outcome : Outcome)
  | event (format : Format) (event : SourceEvent)
  /-- A start that is still pending is cancelled and reports one of the outcomes. -/
  | shutdown (h264 jpeg : Outcome)
  | receive (viewer : ViewerId) (count : Nat)
  | close (viewer : ViewerId)
  deriving DecidableEq, Repr

/-- A station works on the queues of its viewers. -/
structure Scene where
  station : Station
  mail : Mailboxes := {}
  deriving DecidableEq, Repr

namespace Station

def session (station : Station) : Format → Session
  | .h264 => station.h264
  | .jpeg => station.jpeg

def setSession (station : Station) (session : Session) : Format → Station
  | .h264 => { station with h264 := session }
  | .jpeg => { station with jpeg := session }

end Station

namespace Scene

/-- The session of a format takes a turn. -/
def turn (scene : Scene) (format : Format) : Turn :=
  { session := scene.station.session format, mail := scene.mail }

/-- The turn of a session becomes part of the scene. -/
def apply (scene : Scene) (format : Format) (turn : Turn) : Scene :=
  { station := scene.station.setSession turn.session format, mail := turn.mail }

/-- No unit of a stream outlives it. -/
def clearStore (scene : Scene) : Scene :=
  { scene with station := { scene.station with store := {} } }

/-- This removes a viewer from one format. -/
def leave (scene : Scene) (format : Format) (viewer : ViewerId) : Scene × List Effect :=
  let (stopped, turn) := (scene.turn format).unsubscribe [viewer]
  let left := scene.apply format turn
  (if stopped && format = .h264 then left.clearStore else left, turn.effects)

/-- Only the stream of a recorder has units to catch up with. -/
def catchUp (scene : Scene) : Format → List Octets
  | .h264 => scene.station.store.snapshot
  | .jpeg => []

/-- A format's session changes by a turn, and what it did is reported. -/
def act (scene : Scene) (format : Format) (turn : Turn) : Scene × List Effect :=
  (scene.apply format turn, turn.effects)

/-- This adds a viewer to one format. -/
def join (scene : Scene) (format : Format) (viewer : ViewerId) : Scene × List Effect :=
  scene.act format ((scene.turn format).subscribe viewer (scene.catchUp format))

/-- The units of a stream are observed before it is relayed. -/
def relay (scene : Scene) (format : Format) (payload : Octets) : Scene × List Effect :=
  let observed : Scene :=
    match format with
    | .h264 => { scene with station := { scene.station with
        store := scene.station.store.observe payload } }
    | .jpeg => scene
  let (stopped, turn) := (observed.turn format).relay payload
  let relayed := observed.apply format turn
  (if stopped && format = .h264 then relayed.clearStore else relayed, turn.effects)

/-- A new stream and the end of a stream empty the store. -/
def forget (scene : Scene) : Format → Scene
  | .h264 => scene.clearStore
  | .jpeg => scene

/-- An open station handles an input. A viewer that subscribes leaves the other format. An outcome
is handled while its start is pending, and an event while its stream is received. -/
def handle (scene : Scene) : Input → Scene × List Effect
  | .subscribe viewer format =>
      let (left, leaving) := scene.leave format.other viewer
      let (joined, joining) := left.join format viewer
      (joined, leaving ++ joining)
  | .unsubscribe viewer =>
      let (left, leaving) := scene.leave .h264 viewer
      let (gone, going) := left.leave .jpeg viewer
      (gone, leaving ++ going)
  | .started format outcome =>
      if (scene.station.session format).sourceHome then (scene, [])
      else
        let fresh := scene.forget format
        fresh.act format ((fresh.turn format).started outcome)
  | .event format event =>
      if !(scene.station.session format).listening then (scene, [])
      else
        match event with
        | .data payload => scene.relay format payload
        | .ended _ =>
            let (finished, effects) := scene.act format (scene.turn format).ended
            (finished.forget format, effects)
  | .shutdown h264 jpeg =>
      let (first, stopping) := scene.act .h264 ((scene.turn .h264).shutdown h264)
      let (second, stopped) := first.act .jpeg ((first.turn .jpeg).shutdown jpeg)
      ({ second with station := { second.station with isOpen := false } }, stopping ++ stopped)
  | .receive viewer count =>
      ({ scene with mail := scene.mail.set viewer ((scene.mail.get viewer).take count).2 }, [])
  | .close viewer =>
      ({ scene with mail := scene.mail.set viewer (scene.mail.get viewer).close }, [])

/-- A closed station handles nothing, but its viewers still receive. -/
def step (scene : Scene) (input : Input) : Scene × List Effect :=
  match input with
  | .receive .. | .close .. => scene.handle input
  | _ => if scene.station.isOpen then scene.handle input else (scene, [])

/-- A run handles its inputs in their order and collects what was done. -/
def run (scene : Scene) : List Input → Scene × List Effect
  | [] => (scene, [])
  | input :: rest =>
      let (next, effects) := scene.step input
      let (last, more) := next.run rest
      (last, effects ++ more)

end Scene

end Screencast.Broadcast
