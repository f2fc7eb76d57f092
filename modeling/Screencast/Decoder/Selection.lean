/-
This file names the ways to feed a decoder and selects one that a viewer can decode.
-/

import Screencast.Mp4.Writer
import Screencast.Text.Quoted

namespace Screencast.Decoder

inductive StrategyKind
  | hardware
  | buffered
  | raw
  deriving DecidableEq, Repr

namespace StrategyKind

/-- The strategies are tried in this order. -/
def defaultOrder : List StrategyKind := [.hardware, .buffered, .raw]

def name : StrategyKind → String
  | .hardware => "hardware"
  | .buffered => "buffered"
  | .raw => "raw"

/-- The error names the text that is no strategy. -/
def ofName (text : String) : Except String StrategyKind :=
  match defaultOrder.find? fun kind => kind.name = text with
  | some kind => .ok kind
  | none => .error ("unknown sink strategy " ++ Text.Quoted.encode text)

/-- A decoder that reads the parameter sets in the stream needs no configuration. -/
def needsConfiguration (kind : StrategyKind) : Bool := kind ≠ .raw

end StrategyKind

/-- A viewer can decode in some of these ways. -/
structure Capabilities where
  hardware : Bool := false
  buffered : Bool := false
  software : Bool := false
  deriving DecidableEq, Repr

namespace Capabilities

def all : Capabilities := ⟨true, true, true⟩

def softwareOnly : Capabilities := { software := true }

def allows (capabilities : Capabilities) : StrategyKind → Bool
  | .hardware => capabilities.hardware
  | .buffered => capabilities.buffered
  | .raw => capabilities.software

end Capabilities

structure Settings where
  /-- Timestamps are made up from this rate. -/
  fps : UInt32 := 60
  timescale : UInt32 := Mp4.Writer.videoTimescale
  /-- The first of these that the viewer can decode is used. -/
  order : List StrategyKind := StrategyKind.defaultOrder
  deriving DecidableEq, Repr

namespace Settings

/-- A rate of zero frames counts as one. -/
def withFps (settings : Settings) (fps : UInt32) : Settings := { settings with fps := max fps 1 }

/-- A timescale of zero units counts as one. -/
def withTimescale (settings : Settings) (timescale : UInt32) : Settings :=
  { settings with timescale := max timescale 1 }

/-- This is the first usable strategy. -/
def select? (settings : Settings) (capabilities : Capabilities) : Option StrategyKind :=
  settings.order.find? capabilities.allows

end Settings

end Screencast.Decoder
