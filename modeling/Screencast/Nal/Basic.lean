/-
This file defines the units of an H.264 stream and sorts them by their type.
-/

import Screencast.Nal.StartCode

namespace Screencast

/-- A unit follows its start code and has at least a header octet. -/
structure Nal where
  startCode : StartCode
  header : UInt8
  body : Octets
  deriving DecidableEq, Repr

namespace Nal

/-- These are the unit types with a name. -/
inductive Kind
  | slice
  | slicePartA
  | slicePartB
  | slicePartC
  | idr
  | sei
  | sps
  | pps
  | aud
  | endSeq
  | endStream
  | filler
  deriving DecidableEq, Repr

/-- The low five bits of a header hold the type. -/
def typeOf (header : UInt8) : UInt8 := header % 32

def Kind.code : Kind → UInt8
  | .slice => 1
  | .slicePartA => 2
  | .slicePartB => 3
  | .slicePartC => 4
  | .idr => 5
  | .sei => 6
  | .sps => 7
  | .pps => 8
  | .aud => 9
  | .endSeq => 10
  | .endStream => 11
  | .filler => 12

def Kind.all : List Kind :=
  [.slice, .slicePartA, .slicePartB, .slicePartC, .idr, .sei, .sps, .pps, .aud, .endSeq,
    .endStream, .filler]

/-- The other bits of the header do not matter. -/
def Kind.ofHeader? (header : UInt8) : Option Kind :=
  Kind.all.find? fun kind => kind.code = typeOf header

def Kind.isKeyframe (kind : Kind) : Bool := kind = .idr

def Kind.isParameterSet (kind : Kind) : Bool := kind = .sps || kind = .pps

def type (unit : Nal) : UInt8 := typeOf unit.header

def kind? (unit : Nal) : Option Kind := Kind.ofHeader? unit.header

/-- The payload of a unit has no start code. -/
def payload (unit : Nal) : Octets := unit.header :: unit.body

/-- The data of a unit has its start code. -/
def data (unit : Nal) : Octets := unit.startCode.octets ++ unit.payload

/-- A bare start code is no unit. -/
def ofData? (data : Octets) : Option Nal := do
  let startCode ← StartCode.atStart? data
  match data.drop startCode.length with
  | [] => none
  | header :: body => some ⟨startCode, header, body⟩

/-- A slice carries picture data. -/
def isSlice (unit : Nal) : Bool := 1 ≤ unit.type && unit.type ≤ 5

/-- A keyframe slice can be decoded without an earlier picture. -/
def isKeyframe (unit : Nal) : Bool := unit.type = 5

def isSps (unit : Nal) : Bool := unit.type = 7

def isPps (unit : Nal) : Bool := unit.type = 8

def isParameterSet (unit : Nal) : Bool := unit.isSps || unit.isPps

/-- Units that carry no picture data themselves configure the decoder. -/
def isConfiguration (unit : Nal) : Bool := 6 ≤ unit.type && unit.type ≤ 9

/-- Units are joined without anything between them. -/
def concat (units : List Nal) : Octets := units.flatMap Nal.data

/-- A sample keeps the slices, each behind the 32-bit length of its payload. -/
def lengthPrefixed (payload : Octets) : Octets :=
  Octets.bigEndian 4 payload.length ++ payload

/-- This joins the length-prefixed slices of a group. -/
def sample (units : List Nal) : Octets :=
  (units.filter isSlice).flatMap fun unit => lengthPrefixed unit.payload

end Nal

end Screencast
