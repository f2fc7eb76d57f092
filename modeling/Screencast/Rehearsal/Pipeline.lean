/-
This file rehearses one device from its sessions to its viewers. The station of the device works
with both sessions, and a stand-in plays the device.
-/

import Screencast.Broadcast.Station
import Screencast.Rehearsal.Round

namespace Screencast.Rehearsal

open Broadcast

structure Pipeline where
  recording : Recorder.Settings
  grabbing : Grabber.Settings
  standIn : StandIn
  scene : Scene
  recorder : Recorder.Session := {}
  grabber : Grabber.Session := {}
  deriving Repr

namespace Pipeline

/-- A start that succeeded is followed by the events of its stream. -/
def inputs {ι : Type} (format : Format) (describe : ι → StartInfo) (events : List SourceEvent) :
    Except Fault ι → List Input
  | .ok info => .started format (.live (describe info)) :: events.map (.event format)
  | .error fault => [.started format (.failed fault)]

/-- A session starts, and the station hears of it. -/
def startSource (pipeline : Pipeline) : Format → List Input × Pipeline
  | .h264 =>
      let part := Part.recorder pipeline.recording pipeline.standIn.serial
      let (result, recorder, standIn) :=
        (part.start pipeline.recorder).run StandIn.world pipeline.standIn
      (inputs .h264 .ofDevice (part.events standIn recorder) result,
        { pipeline with recorder, standIn })
  | .jpeg =>
      let part := Part.grabber pipeline.grabbing
      let (result, grabber, standIn) :=
        (part.start pipeline.grabber).run StandIn.world pipeline.standIn
      (inputs .jpeg .ofBanner (part.events standIn grabber) result,
        { pipeline with grabber, standIn })

def stopSource (pipeline : Pipeline) : Format → Pipeline
  | .h264 =>
      let (_, recorder, standIn) :=
        (Recorder.Session.stop pipeline.recorder).run StandIn.world pipeline.standIn
      { pipeline with recorder, standIn }
  | .jpeg =>
      let (_, grabber, standIn) :=
        (Grabber.Session.stop pipeline.grabber).run StandIn.world pipeline.standIn
      { pipeline with grabber, standIn }

/-- The sessions carry out what the station did. -/
def carryOut (pipeline : Pipeline) : List Effect → List Input × Pipeline
  | [] => ([], pipeline)
  | .call format .start :: rest =>
      let (inputs, pipeline) := pipeline.startSource format
      let (more, pipeline) := pipeline.carryOut rest
      (inputs ++ more, pipeline)
  | .call format .stop :: rest => (pipeline.stopSource format).carryOut rest
  | .offer .. :: rest => pipeline.carryOut rest

/-- The inputs that a command leads to are handled down to a depth. -/
def handle : (depth : Nat) → Pipeline → List Input → Pipeline
  | 0, pipeline, _ => pipeline
  | depth + 1, pipeline, inputs =>
      inputs.foldl (fun pipeline input =>
        let (scene, effects) := pipeline.scene.step input
        let (next, pipeline) := { pipeline with scene }.carryOut effects
        handle depth pipeline next) pipeline

/-- A command leads to a start, and what the start reports leads at most to a stop. -/
def command (pipeline : Pipeline) (input : Input) : Pipeline := handle 2 pipeline [input]

/-- A viewer subscribes with an empty queue and takes some messages. -/
def join (pipeline : Pipeline) (viewer : ViewerId) (capacity : Nat) (format : Format)
    (wanted : Nat) : List Message × Pipeline :=
  let ready := { pipeline with scene := { pipeline.scene with
    mail := pipeline.scene.mail.set viewer (.create capacity) } }
  let joined := ready.command (.subscribe viewer format)
  ((joined.scene.mail.get viewer).messages.take wanted, joined.command (.receive viewer wanted))

/-- No start is pending when the pipeline shuts down. -/
def shutdown (pipeline : Pipeline) : Pipeline := pipeline.command (.shutdown .cancelled .cancelled)

end Pipeline

end Screencast.Rehearsal
