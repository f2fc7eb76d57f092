/-
This file reads the picture size from a sequence parameter set. The fields before the size are read
only to stay aligned.
-/

import Screencast.Avc.Bits
import Screencast.Avc.Emulation
import Screencast.Nal.Basic

namespace Screencast.Avc

/-- These fields identify a stream and give its picture size. -/
structure Sps where
  profile : UInt8
  constraints : UInt8
  level : UInt8
  /-- This is 0 for grey, 1 for 4:2:0, 2 for 4:2:2 and 3 for 4:4:4. -/
  chromaFormat : UInt32
  separatePlanes : Bool
  /-- A stream without this flag may carry fields. -/
  framesOnly : Bool
  width : UInt32
  height : UInt32
  deriving DecidableEq, Repr

namespace Sps

/-- The sets of these profiles describe chroma, bit depth and scaling. -/
def highProfiles : List UInt8 := [100, 110, 122, 244, 44, 83, 86, 118, 128, 138, 139, 134, 135]

/-- A scale is coded by its difference to the last one. A zero ends the differences. -/
def skipScales (last next : Int) : (count : Nat) → BitReader Unit
  | 0 => pure ()
  | count + 1 => do
      let next ← if next = 0 then pure 0 else do
        let delta ← readSigned
        pure (Int.tmod (last + delta.toInt + 256) 256)
      skipScales (if next = 0 then last else next) next count

/-- The first six lists have 16 scales and the others 64. -/
def skipScalingLists (index : Nat) : (count : Nat) → BitReader Unit
  | 0 => pure ()
  | count + 1 => do
      if ← readBit then skipScales 8 8 (if index < 6 then 16 else 64)
      skipScalingLists (index + 1) count

/-- A high profile gives the chroma format and the separation of its planes. -/
def readChroma : BitReader (UInt32 × Bool) := do
  let format ← readUnsigned
  if 3 < format then throw (.invalidSps .chromaFormat)
  let separate ← if format = 3 then readBit else pure false
  let _lumaDepth ← readUnsigned
  let _chromaDepth ← readUnsigned
  let _bypass ← readBit
  if ← readBit then skipScalingLists 0 (if format = 3 then 12 else 8)
  return (format, separate)

/-- This reads as many signed codes as a cycle has. -/
def skipOffsets : (count : Nat) → BitReader Unit
  | 0 => pure ()
  | count + 1 => do
      let _offset ← readSigned
      skipOffsets count

/-- There are three ways to code the order of the pictures. -/
def skipPictureOrder : BitReader Unit := do
  let order ← readUnsigned
  if order = 0 then
    let _bits ← readUnsigned
  else if order = 1 then
    let _zero ← readBit
    let _nonReference ← readSigned
    let _bottom ← readSigned
    let cycle ← readUnsigned
    if 255 < cycle then throw (.invalidSps .pictureOrderCycle)
    skipOffsets cycle.toNat
  else if order ≠ 2 then
    throw (.invalidSps .pictureOrderType)

/-- A crop counts units on each side of the picture. -/
structure Crop where
  left : UInt64 := 0
  right : UInt64 := 0
  top : UInt64 := 0
  bottom : UInt64 := 0

def readCrop : BitReader Crop := do
  if ← readBit then
    let left ← readUnsigned
    let right ← readUnsigned
    let top ← readUnsigned
    let bottom ← readUnsigned
    return ⟨left.toUInt64, right.toUInt64, top.toUInt64, bottom.toUInt64⟩
  else return {}

/-- A crop unit covers whole chroma samples, and whole field pairs where fields may occur. -/
def cropUnits (chromaFormat : UInt32) (separatePlanes : Bool) (fields : UInt64) :
    UInt64 × UInt64 :=
  match if separatePlanes then 0 else chromaFormat with
  | 1 => (2, 2 * fields)
  | 2 => (2, fields)
  | _ => (1, fields)

/-- The picture is what the crop leaves of the macroblocks. -/
def pictureSize (units : UInt64 × UInt64) (fullWidth fullHeight : UInt64) (crop : Crop) :
    Except MediaFault (UInt32 × UInt32) := do
  let cutWidth := (crop.left + crop.right) * units.1
  let cutHeight := (crop.top + crop.bottom) * units.2
  if fullWidth < cutWidth then throw (.invalidSps .horizontalCrop)
  if fullHeight < cutHeight then throw (.invalidSps .verticalCrop)
  let width := fullWidth - cutWidth
  let height := fullHeight - cutHeight
  if 4294967296 ≤ width ∨ 4294967296 ≤ height then throw (.invalidSps .dimensions)
  return (width.toUInt32, height.toUInt32)

/-- This reads the set behind its header octet. -/
def read : BitReader Sps := do
  let profile ← readBits 8
  let constraints ← readBits 8
  let level ← readBits 8
  let _identifier ← readUnsigned
  let (chromaFormat, separatePlanes) ←
    if profile.toUInt8 ∈ highProfiles then readChroma else pure (1, false)
  let _frameNumberBits ← readUnsigned
  skipPictureOrder
  let _references ← readUnsigned
  let _gaps ← readBit
  let widthMacroblocks ← readUnsigned
  let heightUnits ← readUnsigned
  let framesOnly ← readBit
  if !framesOnly then
    let _adaptive ← readBit
  let _inference ← readBit
  let crop ← readCrop
  let fields : UInt64 := if framesOnly then 1 else 2
  let fullWidth := (widthMacroblocks.toUInt64 + 1) * 16
  let fullHeight := fields * (heightUnits.toUInt64 + 1) * 16
  let (width, height) ←
    (pictureSize (cropUnits chromaFormat separatePlanes fields) fullWidth fullHeight crop :
      Except MediaFault (UInt32 × UInt32))
  return { profile := profile.toUInt8, constraints := constraints.toUInt8,
           level := level.toUInt8, chromaFormat, separatePlanes, framesOnly, width, height }

/-- This reads a unit without its start code. A unit below four octets has no level. -/
def parse (unit : Octets) : Except MediaFault Sps :=
  match unit with
  | header :: profile :: constraints :: level :: rest =>
      if Nal.typeOf header ≠ Nal.Kind.sps.code then .error (.invalidSps .wrongUnit)
      else
        let body := profile :: constraints :: level :: rest
        (read.run (bits (stripEmulation body))).map Prod.fst
  | _ => .error .truncatedSps

end Sps

end Screencast.Avc
