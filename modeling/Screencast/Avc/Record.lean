/-
This file builds the record that configures an AVC decoder out of band.
-/

import Screencast.Fault

namespace Screencast.Avc

/-- A record holds one parameter set of each kind, without start codes. -/
structure Record where
  profile : UInt8
  compatibility : UInt8
  level : UInt8
  sps : Octets
  pps : Octets
  deriving DecidableEq, Repr

namespace Record

/-- The lengths in front of the units of a sample have this many octets. -/
def lengthSize : Nat := 4

/-- The set of a stream begins with its header, profile, compatibility and level. -/
def ofParameterSets (sps pps : Octets) : Except MediaFault Record :=
  match sps with
  | _ :: profile :: compatibility :: level :: _ =>
      if pps.isEmpty then .error .missingParameterSets
      else .ok { profile, compatibility, level, sps, pps }
  | _ => .error .truncatedSps

/-- The layout is version, profile, compatibility, level, length size and the two counted sets. -/
def octets (record : Record) : Octets :=
  [1, record.profile, record.compatibility, record.level, 0xFF, 0xE1] ++
    Octets.bigEndian 2 record.sps.length ++ record.sps ++
    [1] ++ Octets.bigEndian 2 record.pps.length ++ record.pps

/-- A codec name spells profile, compatibility and level. -/
def codec (record : Record) : String :=
  "avc1." ++
    String.ofList ([record.profile, record.compatibility, record.level].flatMap Text.hexPair)

def profileName (record : Record) : String :=
  match record.profile with
  | 66 => "Baseline"
  | 77 => "Main"
  | 88 => "Extended"
  | 100 => "High"
  | 110 => "High 10"
  | 122 => "High 4:2:2"
  | 244 => "High 4:4:4"
  | _ => "Unknown"

/-- A level is a count of tenths. -/
def levelName (record : Record) : String :=
  toString (record.level.toNat / 10) ++ "." ++ toString (record.level.toNat % 10)

end Record

end Screencast.Avc
