/-
This file plays a broadcast with scripted sources. After each command everything runs until nothing
is left to do.
-/

import Screencast.Broadcast.Directory

namespace Screencast.Rehearsal

open Broadcast

/-- A scripted source counts its calls. A held start waits, and a start may be told to fail. -/
structure Source where
  starts : Nat := 0
  stops : Nat := 0
  streaming : Bool := false
  held : Bool := false
  failure : Option String := none
  deriving DecidableEq, Repr

namespace Source

def call (source : Source) : SourceCall → Source
  | .start => { source with starts := source.starts + 1 }
  | .stop => { source with stops := source.stops + 1, streaming := false }

/-- A start that is not held fails as told or opens a stream. -/
def finish (source : Source) (info : StartInfo) : Outcome :=
  match source.failure with
  | some text => .failed (.bridge text)
  | none => .live info

/-- A start that is not held finishes even when it was cancelled. -/
def outcome? (source : Source) (info : StartInfo) (cancelled : Bool) : Option Outcome :=
  if !source.held then some (source.finish info)
  else if cancelled then some .cancelled
  else none

end Source

/-- A pair of sources serves one station. -/
structure Sources where
  h264 : Source := {}
  jpeg : Source := {}
  deriving DecidableEq, Repr

namespace Sources

def get (sources : Sources) : Format → Source
  | .h264 => sources.h264
  | .jpeg => sources.jpeg

def modify (sources : Sources) (format : Format) (change : Source → Source) : Sources :=
  match format with
  | .h264 => { sources with h264 := change sources.h264 }
  | .jpeg => { sources with jpeg := change sources.jpeg }

/-- The sources receive the calls among some effects. -/
def apply (sources : Sources) (effects : List Effect) : Sources :=
  effects.foldl (fun sources effect =>
    match effect with
    | .call format call => sources.modify format fun source => source.call call
    | .offer .. => sources) sources

end Sources

/-- A stage holds the stations with their sources and a handle for each device in use. -/
structure Stage where
  h264Info : StartInfo
  jpegInfo : StartInfo
  directory : Directory := {}
  sources : List Sources := []
  handles : List (String × Nat) := []
  deriving Repr

namespace Stage

def info (stage : Stage) : Format → StartInfo
  | .h264 => stage.h264Info
  | .jpeg => stage.jpegInfo

def sourcesAt (stage : Stage) (position : Nat) : Sources := stage.sources.getD position {}

def source (stage : Stage) (position : Nat) (format : Format) : Source :=
  (stage.sourcesAt position).get format

def modifySource (stage : Stage) (position : Nat) (format : Format) (change : Source → Source) :
    Stage :=
  { stage with sources := stage.sources.modify position fun sources =>
      sources.modify format change }

/-- A station handles an input, and its sources receive the calls. -/
def input (stage : Stage) (position : Nat) (input : Input) : Stage :=
  let (directory, effects) := stage.directory.step position input
  { stage with
    directory
    sources := stage.sources.modify position fun sources => sources.apply effects }

/-- A pending start that can finish does so. -/
def settleStart (stage : Stage) (position : Nat) (format : Format) : Stage :=
  match (stage.directory.station? position).bind fun station => (station.session format).token with
  | none => stage
  | some cancelled =>
      match (stage.source position format).outcome? (stage.info format) cancelled with
      | none => stage
      | some outcome =>
          let opened :=
            match outcome with
            | .live _ => stage.modifySource position format fun source =>
                { source with streaming := true }
            | _ => stage
          opened.input position (.started format outcome)

/-- A cancelled start may be made once more, so each format has two turns. -/
def settle (stage : Stage) (position : Nat) : Stage :=
  [Format.h264, .jpeg, .h264, .jpeg].foldl (fun stage format => stage.settleStart position format)
    stage

/-- The outcome of a start that a shutdown cancels. -/
def lastOutcome (stage : Stage) (position : Nat) (format : Format) : Outcome :=
  ((stage.source position format).outcome? (stage.info format) true).getD .cancelled

def shutdown (stage : Stage) (position : Nat) : Stage :=
  stage.input position
    (.shutdown (stage.lastOutcome position .h264) (stage.lastOutcome position .jpeg))

/-- A new station comes with new sources. -/
def openStation (stage : Stage) (serial : String) : Nat × Stage :=
  let (position, directory) := stage.directory.getOrSpawn serial
  let fresh := directory.stations.length - stage.sources.length
  (position, { stage with directory, sources := stage.sources ++ List.replicate fresh {} })

/-- A handle stays with the station that it was given for. -/
def handle? (stage : Stage) (serial : String) : Option Nat :=
  (stage.handles.find? fun entry => entry.1 = serial).map Prod.snd

/-- This opens a station and hands it out in place of an earlier one. -/
def reopen (stage : Stage) (serial : String) : Nat × Stage :=
  let (position, stage) := stage.openStation serial
  (position, { stage with
    handles := (serial, position) :: stage.handles.filter fun entry => entry.1 ≠ serial })

/-- The first use of a device opens its station. -/
def handle (stage : Stage) (serial : String) : Nat × Stage :=
  match stage.handle? serial with
  | some position => (position, stage)
  | none => stage.reopen serial

/-- A viewer gets its queue when it is first named. -/
def addViewer (stage : Stage) (viewer : ViewerId) (capacity : Nat) : Stage :=
  match stage.directory.mail.find? viewer with
  | some _ => stage
  | none =>
      let mail := stage.directory.mail.set viewer (.create capacity)
      { stage with directory := { stage.directory with mail } }

/-- A viewer takes its oldest messages. -/
def receive (stage : Stage) (viewer : ViewerId) (count : Nat) : List Message × Stage :=
  let (messages, mailbox) := (stage.directory.mail.get viewer).take count
  let mail := stage.directory.mail.set viewer mailbox
  (messages, { stage with directory := { stage.directory with mail } })

/-- A viewer closes its queue, and its station finds out at the next delivery. -/
def hangUp (stage : Stage) (viewer : ViewerId) : Stage :=
  let mail := stage.directory.mail.set viewer (stage.directory.mail.get viewer).close
  { stage with directory := { stage.directory with mail } }

/-- The commands of a viewer or an operator. -/
inductive Command
  | subscribe (viewer : ViewerId) (format : Format)
  | unsubscribe (viewer : ViewerId)
  | shutdown
  deriving DecidableEq, Repr

/-- A closed station refuses a command. Only shutting down again is not an error. -/
def command (stage : Stage) (position : Nat) (command : Command) : Option Fault × Stage :=
  match command with
  | .shutdown => (none, stage.shutdown position)
  | .subscribe viewer format => plain (.subscribe viewer format)
  | .unsubscribe viewer => plain (.unsubscribe viewer)
where
  plain (input : Input) : Option Fault × Stage :=
    if stage.directory.isOpen position then (none, stage.input position input)
    else (some .relayClosed, stage)

/-- Queued commands are all handled before any start makes progress. -/
def batch (stage : Stage) (position : Nat) (commands : List Command) :
    List (Option Fault) × Stage :=
  let (results, stage) := commands.foldl (fun ((results, stage) : List (Option Fault) × Stage) next =>
    let (result, stage) := stage.command position next
    (results ++ [result], stage)) ([], stage)
  (results, stage.settle position)

/-- A source sends payloads when it has a stream. -/
def emit (stage : Stage) (position : Nat) (format : Format) (payloads : List Octets) :
    Bool × Stage :=
  if (stage.source position format).streaming then
    (true, payloads.foldl (fun stage payload =>
      stage.input position (.event format (.data payload))) stage)
  else (false, stage)

/-- A source that has a stream sends payloads and then ends the stream. -/
def finish (stage : Stage) (position : Nat) (format : Format) (payloads : List Octets)
    (reason : Option String) : Bool × Stage :=
  let (present, stage) := stage.emit position format payloads
  if present then
    let silent := stage.modifySource position format fun source =>
      { source with streaming := false }
    (true, silent.input position (.event format (.ended reason)))
  else (false, stage)

/-- This removes a device from the directory and shuts its station down. -/
def remove (stage : Stage) (serial : String) : Bool × Stage :=
  let (position, directory) := stage.directory.takeOut serial
  let stage := { stage with directory }
  match position with
  | some position => (true, stage.shutdown position)
  | none => (false, stage)

def shutdownAll (stage : Stage) : Stage :=
  let (positions, directory) := stage.directory.takeAll
  positions.foldl shutdown { stage with directory }

/-- The newest station of each device, in the order of the devices. -/
def newest (stage : Stage) : List (String × Nat) :=
  let known := stage.directory.stations.map Station.serial
  (Directory.sortTexts known.eraseDups).map fun serial =>
    (serial, known.length - 1 - known.reverse.idxOf serial)

/-- Without handles every station that is still open shuts down. -/
def close (stage : Stage) : Stage :=
  (List.range stage.directory.stations.length).foldl shutdown stage

end Stage

end Screencast.Rehearsal
