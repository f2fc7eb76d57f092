/-
This file turns the payloads that a viewer receives into the input of its decoder.
-/

import Screencast.Decoder.StreamKind
import Screencast.Decoder.Strategy
import Screencast.Nal.Demuxer

namespace Screencast.Decoder

/-- The kind of a stream is known after its first payload. -/
structure Adapter where
  strategy : Strategy
  tracker : Tracker := {}
  kind : Option StreamKind := none
  deriving DecidableEq, Repr

namespace Adapter

/-- A viewer without a usable strategy cannot watch. -/
def create (capabilities : Capabilities) (settings : Settings) : Except MediaFault Adapter :=
  match settings.select? capabilities with
  | some kind => .ok { strategy := .create kind settings.fps settings.timescale }
  | none => .error .noStrategy

/-- A known size is used in place of the size in the parameter sets. -/
def setGeometry (adapter : Adapter) (width height : UInt32) : Adapter :=
  { adapter with tracker := { geometry := some (width, height) } }

/-- A new pair of parameter sets configures the decoder. A malformed one is ignored. -/
def observe (adapter : Adapter) (unit : Nal) : List DecoderInput × Adapter :=
  match adapter.tracker.observe unit with
  | (.ok (some configuration), tracker) =>
      let (inputs, strategy) := adapter.strategy.configure configuration
      (inputs, { adapter with tracker, strategy })
  | (_, tracker) => ([], { adapter with tracker })

/-- The parameter sets of a payload are observed in their order. -/
def observeAll (adapter : Adapter) : List Nal → List DecoderInput × Adapter
  | [] => ([], adapter)
  | unit :: rest =>
      let (inputs, adapter) := adapter.observe unit
      let (more, adapter) := adapter.observeAll rest
      (inputs ++ more, adapter)

/-- Without a configuration that it needs, the strategy is not fed. -/
def pushVideo (adapter : Adapter) (payload : Octets) :
    Except MediaFault (List DecoderInput) × Adapter :=
  let units := Nal.split payload
  let (inputs, adapter) := adapter.observeAll (units.filter Nal.isParameterSet)
  if adapter.strategy.kind.needsConfiguration && adapter.tracker.current.isNone then
    (.ok inputs, adapter)
  else
    let (result, strategy) := adapter.strategy.feed units
    (result.map (inputs ++ ·), { adapter with strategy })

/-- A payload of a known stream is an image or a group of units. -/
def pushKnown (adapter : Adapter) (payload : Octets) :
    StreamKind → Except MediaFault (List DecoderInput) × Adapter
  | .jpeg => (.ok [.image payload], adapter)
  | .h264 => adapter.pushVideo payload

/-- An empty payload tells nothing. The first other payload must show the kind of the stream. -/
def push (adapter : Adapter) (payload : Octets) :
    Except MediaFault (List DecoderInput) × Adapter :=
  if payload.isEmpty then (.ok [], adapter)
  else
    match adapter.kind with
    | some kind => adapter.pushKnown payload kind
    | none =>
        match StreamKind.detect? payload with
        | some kind => { adapter with kind := some kind }.pushKnown payload kind
        | none => (.error (.unsupportedStream (payload.take 4)), adapter)

/-- The next payload starts over. -/
def teardown (adapter : Adapter) : Adapter :=
  { strategy := adapter.strategy.teardown, tracker := adapter.tracker.reset }

end Adapter

end Screencast.Decoder
