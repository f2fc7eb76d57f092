/-
This file tracks the parameter sets of a stream and the decoder configuration that they make.
-/

import Screencast.Avc.Record
import Screencast.Avc.Sps

namespace Screencast.Decoder

/-- A decoder needs this before its first picture. -/
structure Configuration where
  width : UInt32
  height : UInt32
  record : Avc.Record
  deriving DecidableEq, Repr

namespace Configuration

def codec (configuration : Configuration) : String := configuration.record.codec

/-- The decoder is handed the record out of band. -/
def description (configuration : Configuration) : Octets := configuration.record.octets

/-- A known size replaces the size in the set, which is then not read. -/
def ofParameterSets (sps pps : Octets) (geometry : Option (UInt32 × UInt32)) :
    Except MediaFault Configuration := do
  let (width, height) ←
    match geometry with
    | some size => pure size
    | none => (Avc.Sps.parse sps).map fun set => (set.width, set.height)
  let record ← Avc.Record.ofParameterSets sps pps
  return { width, height, record }

end Configuration

/-- The tracker holds the latest parameter sets and the configuration in use. -/
structure Tracker where
  sps : Option Octets := none
  pps : Option Octets := none
  geometry : Option (UInt32 × UInt32) := none
  current : Option Configuration := none
  deriving DecidableEq, Repr

namespace Tracker

/-- The configuration in use was made from these sets. -/
def isCurrent (tracker : Tracker) (sps pps : Octets) : Bool :=
  match tracker.current with
  | some configuration => configuration.record.sps = sps && configuration.record.pps = pps
  | none => false

/-- A pair of sets that is not in use already becomes the configuration, unless it is malformed. -/
def update (tracker : Tracker) : Except MediaFault (Option Configuration) × Tracker :=
  match tracker.sps, tracker.pps with
  | some sps, some pps =>
      if tracker.isCurrent sps pps then (.ok none, tracker)
      else
        match Configuration.ofParameterSets sps pps tracker.geometry with
        | .ok configuration => (.ok (some configuration), { tracker with current := configuration })
        | .error fault => (.error fault, tracker)
  | _, _ => (.ok none, tracker)

/-- Only a parameter set can change the configuration. -/
def observe (tracker : Tracker) (unit : Nal) :
    Except MediaFault (Option Configuration) × Tracker :=
  if unit.isSps then { tracker with sps := some unit.payload }.update
  else if unit.isPps then { tracker with pps := some unit.payload }.update
  else (.ok none, tracker)

/-- A known size outlives the sets. -/
def reset (tracker : Tracker) : Tracker := { geometry := tracker.geometry }

end Tracker

end Screencast.Decoder
