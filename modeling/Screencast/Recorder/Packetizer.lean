/-
This file turns the stream of a recorder into packets. Each packet with a keyframe begins with the
parameter sets, so a decoder can join there.
-/

import Screencast.Nal.Demuxer

namespace Screencast.Recorder

/-- The packetizer holds the open group of units and the latest parameter sets. -/
structure Packetizer where
  demuxer : Demuxer := {}
  pending : List Nal := []
  configuration : List Nal := []
  deriving DecidableEq, Repr

namespace Packetizer

/-- A group without picture data becomes the configuration and no packet. Otherwise the parameter
sets of the group, if any, become the configuration, and the other units become a packet. -/
def closeGroup (configuration group : List Nal) : Option Octets × List Nal :=
  if group.isEmpty then (none, configuration)
  else if group.all Nal.isConfiguration then (none, group)
  else
    let sets := group.filter Nal.isParameterSet
    let rest := group.filter fun unit => !unit.isParameterSet
    let configuration := if sets.isEmpty then configuration else sets
    if rest.isEmpty then (none, configuration)
    else
      let front := if rest.any Nal.isKeyframe then configuration else []
      (some (Nal.concat (front ++ rest)), configuration)

/-- The given units are one group. -/
def processGroup (packetizer : Packetizer) (group : List Nal) : Option Octets × Packetizer :=
  let (packet, configuration) := closeGroup packetizer.configuration group
  (packet, { packetizer with configuration })

/-- A slice ends its group. -/
def addUnit (packetizer : Packetizer) (unit : Nal) : Option Octets × Packetizer :=
  let group := packetizer.pending ++ [unit]
  if unit.isSlice then { packetizer with pending := [] }.processGroup group
  else (none, { packetizer with pending := group })

def addUnits (packetizer : Packetizer) : List Nal → List Octets × Packetizer
  | [] => ([], packetizer)
  | unit :: rest =>
      let (packet, packetizer) := packetizer.addUnit unit
      let (packets, packetizer) := packetizer.addUnits rest
      (packet.toList ++ packets, packetizer)

/-- This gives the packets that a chunk completes. -/
def feed (packetizer : Packetizer) (chunk : Octets) : List Octets × Packetizer :=
  let (units, demuxer) := packetizer.demuxer.feed chunk
  { packetizer with demuxer }.addUnits units

/-- The end of the stream ends the open unit and the open group. -/
def finish (packetizer : Packetizer) : Option Octets × Packetizer :=
  let (unit, demuxer) := packetizer.demuxer.flush
  let group := packetizer.pending ++ unit.toList
  { packetizer with demuxer, pending := [] }.processGroup group

/-- The chunks are fed in their order. -/
def feedAll (packetizer : Packetizer) : List Octets → List Octets × Packetizer
  | [] => ([], packetizer)
  | chunk :: rest =>
      let (packets, packetizer) := packetizer.feed chunk
      let (more, packetizer) := packetizer.feedAll rest
      (packets ++ more, packetizer)

end Packetizer

end Screencast.Recorder
