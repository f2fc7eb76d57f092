/-
This file feeds a hardware decoder: a record first, then chunks of length-prefixed slices.
-/

import Screencast.Decoder.Configuration
import Screencast.Decoder.Input
import Screencast.Decoder.Selection

namespace Screencast.Decoder

/-- The hardware strategy counts the chunks since it was set up. -/
structure Hardware where
  /-- This is the time between frames in microseconds. -/
  frameDuration : UInt64
  frames : UInt64 := 0
  configured : Bool := false
  /-- A decoder cannot begin with a picture that depends on others. -/
  awaitingKey : Bool := true
  deriving DecidableEq, Repr

namespace Hardware

/-- A rate of zero frames counts as one. -/
def create (fps : UInt32) : Hardware :=
  { frameDuration := 1000000 / (max fps 1).toUInt64 }

def configure (hardware : Hardware) (configuration : Configuration) :
    List DecoderInput × Hardware :=
  ([.configure configuration.codec configuration.width configuration.height
      configuration.description],
    { hardware with configured := true, awaitingKey := true })

/-- The slices of a group become one chunk. Groups before the first keyframe are left out. -/
def feed (hardware : Hardware) (units : List Nal) :
    Except MediaFault (List DecoderInput) × Hardware :=
  let data := Nal.sample units
  let key := units.any Nal.isKeyframe
  if !hardware.configured then (.error (.notConfigured StrategyKind.hardware.name), hardware)
  else if data.isEmpty || (hardware.awaitingKey && !key) then (.ok [], hardware)
  else
    (.ok [.chunk data (hardware.frames * hardware.frameDuration) key],
      { hardware with awaitingKey := false, frames := hardware.frames + 1 })

def teardown (hardware : Hardware) : Hardware := { frameDuration := hardware.frameDuration }

end Hardware

end Screencast.Decoder
