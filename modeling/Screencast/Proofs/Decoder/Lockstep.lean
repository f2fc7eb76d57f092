/-
This file compares the two strategies that are configured out of band. Call by call they refuse,
leave out and pass on the same groups, and the boxes of one hold what the other hands over.
-/

import Mathlib.Data.List.Basic
import Screencast.Decoder.Strategy
import Screencast.Proofs.Mp4.Initialization

namespace Screencast

namespace Decoder

namespace Strategy

/-- These calls change a strategy. -/
inductive Call
  | configure (configuration : Configuration)
  | feed (units : List Nal)
  | teardown
  deriving DecidableEq

/-- A call gives this. -/
abbrev Result : Type := Except MediaFault (List DecoderInput)

def call (strategy : Strategy) : Call → Result × Strategy
  | .configure configuration =>
      let (inputs, strategy) := strategy.configure configuration
      (.ok inputs, strategy)
  | .feed units => strategy.feed units
  | .teardown => (.ok [], strategy.teardown)

/-- Two strategies get the same calls. -/
def lockstep (first second : Strategy) : List Call → List (Call × Result × Result)
  | [] => []
  | call :: rest =>
      (call, (first.call call).1, (second.call call).1) ::
        lockstep (first.call call).2 (second.call call).2 rest

/-- A hardware decoder and a player of MP4 get the same from a call. -/
inductive Matches : Call → Result → Result → Prop
  | configured {configuration : Configuration} {segment : Octets} {boxes : List Mp4.Box}
      (spelled : Mp4.Box.Spelled segment boxes)
      (record : Mp4.Box.fieldsAt?
        ["moov", "trak", "mdia", "minf", "stbl", "stsd", "avc1", "avcC"] boxes =
          some configuration.description) :
      Matches (.configure configuration)
        (.ok [.configure configuration.codec configuration.width configuration.height
          configuration.description])
        (.ok [.initSegment segment])
  | refused {units : List Nal} :
      Matches (.feed units) (.error (.notConfigured StrategyKind.hardware.name))
        (.error (.notConfigured StrategyKind.buffered.name))
  | leftOut {units : List Nal} : Matches (.feed units) (.ok []) (.ok [])
  | fed {units : List Nal} {timestamp : UInt64} {key : Bool} {data segment run : Octets}
      {boxes : List Mp4.Box} (spelled : Mp4.Box.Spelled segment boxes)
      (sample : Mp4.Box.fieldsAt? ["mdat"] boxes = some data)
      (flags : Mp4.Box.fieldsAt? ["moof", "traf", "trun"] boxes = some run)
      (sync : (Mp4.Box.number run 20 4).testBit 16 = !key) :
      Matches (.feed units) (.ok [.chunk data timestamp key]) (.ok [.mediaSegment segment])
  | tornDown : Matches .teardown (.ok []) (.ok [])

/-- Both strategies are configured or not, and both await a keyframe or not. -/
inductive InStep : Strategy → Strategy → Prop
  | intro {state : Hardware} {other : Buffered}
      (configured : state.configured = other.writer.isSome)
      (awaiting : state.awaitingKey = other.awaitingKey) :
      InStep (.hardware state) (.buffered other)

/-- A hardware decoder leaves out what a player of MP4 leaves out. -/
theorem InStep.feed {first second : Strategy} (inStep : InStep first second) (units : List Nal) :
    Matches (.feed units) (first.feed units).1 (second.feed units).1 ∧
      InStep (first.feed units).2 (second.feed units).2 := by
  cases inStep with
  | @intro state other configured awaiting =>
      cases present : other.writer with
      | none =>
          have unconfigured : state.configured = false := by rw [configured, present]; rfl
          have refused : state.feed units =
              (.error (.notConfigured StrategyKind.hardware.name), state) := by
            rw [Hardware.feed, unconfigured]
            rfl
          have refusedToo : other.feed units =
              (.error (.notConfigured StrategyKind.buffered.name), other) := by
            rw [Buffered.feed, present]
          simp only [Strategy.feed, refused, refusedToo]
          exact ⟨.refused, .intro configured awaiting⟩
      | some writer =>
          have ready : state.configured = true := by rw [configured, present]; rfl
          -- One strategy looks at the sample and the other at the slices.
          simp only [Strategy.feed, Hardware.feed, Buffered.feed, present, ready,
            Nal.isEmpty_sample, awaiting, Bool.not_true, Bool.false_eq_true, if_false]
          split
          case isTrue => exact ⟨.leftOut, .intro configured awaiting⟩
          case isFalse =>
            obtain ⟨run, flags, sync⟩ := writer.exists_fieldsAt?_run units
            exact ⟨.fed (writer.spelled_mediaSegment units) (writer.fieldsAt?_sample units) flags
              sync, .intro rfl rfl⟩

/-- Strategies in step do the same at every call and stay in step. -/
theorem InStep.call {first second : Strategy} (inStep : InStep first second) (call : Call) :
    Matches call (first.call call).1 (second.call call).1 ∧
      InStep (first.call call).2 (second.call call).2 := by
  cases call with
  | configure configuration =>
      cases inStep
      exact ⟨.configured (Mp4.Writer.spelled_initSegment _) (Mp4.Writer.fieldsAt?_initSegment _),
        .intro rfl rfl⟩
  | feed units => exact inStep.feed units
  | teardown =>
      cases inStep
      exact ⟨.tornDown, .intro rfl rfl⟩

theorem InStep.lockstep {first second : Strategy} (inStep : InStep first second)
    (calls : List Call) :
    ∀ step ∈ lockstep first second calls, Matches step.1 step.2.1 step.2.2 := by
  induction calls generalizing first second with
  | nil =>
      intro step member
      cases member
  | cons call rest inductionHypothesis =>
      obtain ⟨same, next⟩ := inStep.call call
      rw [Strategy.lockstep, List.forall_mem_cons]
      exact ⟨same, inductionHypothesis next⟩

/-- Two fresh strategies do the same at each of the calls, whatever their rates are. -/
theorem lockstep_matches (rate fps timescale : UInt32) (calls : List Call) :
    ∀ step ∈ lockstep (.hardware (.create rate)) (.buffered { fps, timescale }) calls,
      Matches step.1 step.2.1 step.2.2 := by
  have fresh : InStep (.hardware (.create rate)) (.buffered { fps, timescale }) := .intro rfl rfl
  exact fresh.lockstep calls

/-- Both leave out the group in front of the first keyframe and the group without a slice. -/
theorem lockstep_matches_keyframe :
    let record : Avc.Record := ⟨66, 192, 31, [103, 66, 192, 31], [104, 206]⟩
    let sei : Nal := ⟨.long, 6, [5, 1]⟩
    let delta : Nal := ⟨.short, 65, [154, 2]⟩
    let idr : Nal := ⟨.long, 101, [136, 132]⟩
    let trace := lockstep (.hardware (.create 60)) (.buffered { fps := 30, timescale := 90000 })
      [.feed [idr], .configure ⟨1280, 720, record⟩, .feed [delta], .feed [sei], .feed [sei, idr]]
    (trace.map fun step => step.2.1.toOption.map List.length) =
      [none, some 1, some 0, some 0, some 1] ∧
    ∃ segment,
      (.feed [sei, idr], .ok [.chunk [0, 0, 0, 3, 101, 136, 132] 0 true],
        .ok [.mediaSegment segment]) ∈ trace ∧
      Matches (.feed [sei, idr]) (.ok [.chunk [0, 0, 0, 3, 101, 136, 132] 0 true])
        (.ok [.mediaSegment segment]) := by
  intro record sei delta idr trace
  let writer := Mp4.Writer.create record 1280 720 90000 30
  have member : (.feed [sei, idr], .ok [.chunk [0, 0, 0, 3, 101, 136, 132] 0 true],
      .ok [.mediaSegment (writer.mediaSegment [sei, idr]).1]) ∈ trace := by decide +kernel
  exact ⟨by decide +kernel, _, member, lockstep_matches 60 30 90000 _ _ member⟩

end Strategy

end Decoder

end Screencast
