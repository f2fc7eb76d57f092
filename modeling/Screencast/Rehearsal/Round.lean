/-
This file rehearses a session with a stand-in: it is started, read and stopped, as often as wanted.
-/

import Screencast.Recorder.Session
import Screencast.Rehearsal.StandIn

namespace Screencast.Rehearsal

open Device

/-- A part is a kind of session that can be rehearsed. -/
structure Part (σ ι : Type) where
  start : Task σ (Except Fault ι)
  stop : Task σ Unit
  /-- A started session receives these events. -/
  events : StandIn → σ → List SourceEvent

def Part.recorder (settings : Recorder.Settings) (serial : String) :
    Part Recorder.Session Recorder.DeviceInfo where
  start := Recorder.Session.start settings serial
  stop := Recorder.Session.stop
  events standIn session := (session.reading.map (standIn.recorderEvents settings)).getD []

def Part.grabber (settings : Grabber.Settings) : Part Grabber.Session Grabber.Banner where
  start := Grabber.Session.start settings
  stop := Grabber.Session.stop
  events standIn session := (session.reading.map (standIn.grabberEvents settings)).getD []

/-- A round tells how the start ended, what was read and what the session was then and after its
stop. -/
structure Round (σ ι : Type) where
  result : Except Fault ι
  events : List SourceEvent
  started : σ
  stopped : σ
  callsBeforeStop : Nat
  /-- The stream goes on behind the events that were read. -/
  continues : Bool

namespace Round

/-- Without an end the stream goes on. -/
def goesOn (events : List SourceEvent) : Bool :=
  events.all fun event =>
    match event with
    | .data _ => true
    | .ended _ => false

/-- A session is stopped some times in a row. -/
def stopTimes {σ ι : Type} (part : Part σ ι) : (stops : Nat) → σ → StandIn → σ × StandIn
  | 0, session, standIn => (session, standIn)
  | stops + 1, session, standIn =>
      let (_, session, standIn) := (part.stop session).run StandIn.world standIn
      stopTimes part stops session standIn

/-- All events are read, or as many as wanted. -/
def play {σ ι : Type} (part : Part σ ι) (wanted : Option Nat) (stops : Nat) (session : σ)
    (standIn : StandIn) : Round σ ι × StandIn :=
  let (result, started, standIn) := (part.start session).run StandIn.world standIn
  let events := part.events standIn started
  let (stopped, after) := stopTimes part stops started standIn
  ({ result, started, stopped
     events := match wanted with
       | none => events
       | some count => events.take count
     callsBeforeStop := standIn.calls.length
     continues := wanted.isSome && goesOn events }, after)

/-- The rounds follow each other with one session and one stand-in. -/
def playAll {σ ι : Type} (part : Part σ ι) (wanted : Option Nat) (stops : Nat) :
    (rounds : Nat) → σ → StandIn → List (Round σ ι) × StandIn
  | 0, _, standIn => ([], standIn)
  | rounds + 1, session, standIn =>
      let (round, standIn) := play part wanted stops session standIn
      let (more, standIn) := playAll part wanted stops rounds round.stopped standIn
      (round :: more, standIn)

end Round

end Screencast.Rehearsal
