/-
This file shows what a hardware decoder gets. Each chunk stands behind the configuration that is in
use, begins with a keyframe where it is the first, and has the slices of one payload. Its timestamp
counts the chunks since the last teardown.
-/

import Screencast.Proofs.Decoder.Viewing
import Screencast.Proofs.Mp4.Segments

namespace Screencast

namespace Decoder

namespace DecoderInput

/-- A hardware decoder is configured with a description. -/
def description? : DecoderInput → Option Octets
  | .configure _ _ _ description => some description
  | _ => none

def isChunk : DecoderInput → Bool
  | .chunk .. => true
  | _ => false

/-- There was a chunk since the decoder was configured. -/
def begun (inputs : List DecoderInput) : Bool :=
  inputs.foldl (fun begun input => !input.configures && (begun || input.isChunk)) false

theorem begun_snoc (inputs : List DecoderInput) (input : DecoderInput) :
    begun (inputs ++ [input]) = (!input.configures && (begun inputs || input.isChunk)) := by
  rw [begun, List.foldl_append]
  rfl

/-- Nothing begins behind a configuration without a chunk. -/
theorem begun_of_configure {configure : DecoderInput} (configures : configure.configures = true)
    (earlier : List DecoderInput) {between : List DecoderInput}
    (silent : ∀ input ∈ between, input.isChunk = false) :
    begun (earlier ++ configure :: between) = false := by
  induction between using List.reverseRecOn with
  | nil => rw [begun_snoc, configures]; rfl
  | append_singleton between last inductionHypothesis =>
      rw [List.forall_mem_append, List.forall_mem_singleton] at silent
      rw [← List.cons_append, ← List.append_assoc, begun_snoc, inductionHypothesis silent.1,
        silent.2]
      exact Bool.and_false _

end DecoderInput

open DecoderInput

/-- This is true of a chunk behind the inputs before it. -/
structure ChunkFits (fps : UInt32) (before : List DecoderInput) (pushed : Pushed) (data : Octets)
    (timestamp : UInt64) (key : Bool) : Prop where
  /-- The decoder was configured last with the record of the configuration in use. -/
  configured : ∃ configuration, pushed.configuration = some configuration ∧
    (before.filterMap description?).getLast? = some configuration.record.octets
  /-- The first chunk behind a configuration can be decoded by itself. -/
  begins : ∀ earlier codec width height description between,
    before = earlier ++ .configure codec width height description :: between →
      (∀ input ∈ between, input.isChunk = false) → key = true
  /-- The chunk consists of the slices of the payload, each behind its length. Slices whose lengths
  fit 32 bits are read back. -/
  sample : data = Nal.sample (Nal.split pushed.payload)
  records : (∀ unit ∈ (Nal.split pushed.payload).filter Nal.isSlice,
      unit.payload.length < 4294967296) →
    Nal.readRecords data =
      some (((Nal.split pushed.payload).filter Nal.isSlice).map Nal.payload)
  keyframe : key = true ↔
    ∃ unit ∈ (Nal.split pushed.payload).filter Nal.isSlice, unit.isKeyframe = true
  /-- The rate decides how far apart the chunks are. -/
  time : timestamp = .ofNat (before.countP isChunk * (1000000 / max fps.toNat 1))

/-- All chunks fit what stands before them. -/
def ChunksFit (fps : UInt32) (before : List DecoderInput) : List (Pushed × DecoderInput) → Prop
  | [] => True
  | (pushed, input) :: rest =>
      (∀ data timestamp key, input = .chunk data timestamp key →
        ChunkFits fps before pushed data timestamp key) ∧
      ChunksFit fps (before ++ [input]) rest

theorem chunksFit_append {fps : UInt32} {before : List DecoderInput}
    {first second : List (Pushed × DecoderInput)} :
    ChunksFit fps before (first ++ second) ↔
      ChunksFit fps before first ∧ ChunksFit fps (before ++ first.map Prod.snd) second := by
  induction first generalizing before with
  | nil => simp [ChunksFit]
  | cons head rest inductionHypothesis =>
      simp [ChunksFit, inductionHypothesis, and_assoc]

theorem chunksFit_of_silent {fps : UInt32} {before inputs : List DecoderInput} {pushed : Pushed}
    (silent : ∀ input ∈ inputs, input.isChunk = false) :
    ChunksFit fps before (inputs.map (Prod.mk pushed)) := by
  induction inputs generalizing before with
  | nil => trivial
  | cons first rest inductionHypothesis =>
      rw [List.forall_mem_cons] at silent
      refine ⟨?_, inductionHypothesis silent.2⟩
      intro data timestamp key chunk
      rw [chunk] at silent
      cases silent.1

theorem map_snd_map (pushed : Pushed) (inputs : List DecoderInput) :
    (inputs.map (Prod.mk pushed)).map Prod.snd = inputs := by
  rw [List.map_map]
  exact List.map_id inputs

/-- The state of the strategy counts the inputs since the last teardown. -/
structure Tallied (fps : UInt32) (inputs : List DecoderInput) (adapter : Adapter)
    (state : Hardware) : Prop where
  strategy : adapter.strategy = .hardware state
  duration : state.frameDuration = .ofNat (1000000 / max fps.toNat 1)
  frames : state.frames = .ofNat (inputs.countP isChunk)
  awaiting : state.awaitingKey = !begun inputs
  current : ∀ configuration, adapter.tracker.current = some configuration →
    state.configured = true ∧
      (inputs.filterMap description?).getLast? = some configuration.record.octets

theorem Hardware.frameDuration_create (fps : UInt32) :
    (create fps).frameDuration = .ofNat (1000000 / max fps.toNat 1) := by
  apply UInt64.toNat_inj.1
  have small : 1000000 / max fps.toNat 1 < 18446744073709551616 :=
    Nat.lt_of_le_of_lt (Nat.div_le_self _ _) (by decide)
  rw [UInt64.toNat_ofNat_of_lt' small, create, UInt64.toNat_div, UInt32.toNat_toUInt64,
    Mp4.Writer.toNat_max_one]
  rfl

/-- A group becomes a chunk unless it has no slice or a keyframe is awaited. -/
theorem Hardware.feed_configured {state : Hardware} (configured : state.configured = true)
    (units : List Nal) :
    state.feed units = (.ok [], state) ∨
      (state.awaitingKey = true → units.any Nal.isKeyframe = true) ∧
        state.feed units = (.ok [.chunk (Nal.sample units) (state.frames * state.frameDuration)
          (units.any Nal.isKeyframe)],
          { state with awaitingKey := false, frames := state.frames + 1 }) := by
  rw [feed, configured]
  simp only [Bool.not_true, Bool.false_eq_true, if_false]
  split
  case isTrue => exact .inl rfl
  case isFalse chosen =>
    refine .inr ⟨?_, rfl⟩
    intro awaiting
    cases key : units.any Nal.isKeyframe with
    | true => rfl
    | false => exact absurd (by simp [awaiting, key]) chosen

namespace Tallied

variable {fps : UInt32} {inputs : List DecoderInput} {adapter : Adapter} {state : Hardware}

/-- Nothing is counted at first. -/
theorem fresh (strategy : adapter.strategy = .hardware state)
    (duration : state.frameDuration = .ofNat (1000000 / max fps.toNat 1))
    (unfed : state = { frameDuration := state.frameDuration })
    (current : adapter.tracker.current = none) : Tallied fps [] adapter state where
  strategy := strategy
  duration := duration
  frames := by rw [unfed]; rfl
  awaiting := by rw [unfed]; rfl
  current configuration same := by rw [current] at same; cases same

/-- A configuration of the tracker has reached the strategy. -/
theorem ready (tallied : Tallied fps inputs adapter state) : adapter.Ready := by
  intro present
  obtain ⟨configuration, same⟩ := Option.isSome_iff_exists.1 present
  rw [tallied.strategy]
  exact (tallied.current configuration same).1

theorem observe (tallied : Tallied fps inputs adapter state) {unit : Nal}
    (set : unit.isParameterSet = true) :
    (∃ next, Tallied fps (inputs ++ (adapter.observe unit).1) (adapter.observe unit).2 next) ∧
      ∀ input ∈ (adapter.observe unit).1, input.isChunk = false := by
  have observed := adapter.observe_observed set
  generalize adapter.observe unit = outcome at observed ⊢
  cases observed with
  | configured makes unused =>
      rw [tallied.strategy]
      refine ⟨⟨{ state with configured := true, awaitingKey := true }, rfl, tallied.duration,
        ?_, ?_, ?_⟩, ?_⟩
      · simp [tallied.frames, Strategy.configure, Hardware.configure, isChunk]
      · simp [Strategy.configure, Hardware.configure, begun_snoc, configures]
      · intro configuration same
        cases same
        simp [Strategy.configure, Hardware.configure, description?, Configuration.description]
      · simp [Strategy.configure, Hardware.configure, isChunk]
  | kept used =>
      rw [List.append_nil]
      refine ⟨⟨state, tallied.strategy, tallied.duration, tallied.frames, tallied.awaiting, ?_⟩,
        by simp⟩
      intro configuration same
      exact tallied.current configuration (by simpa using same)

theorem observeAll (tallied : Tallied fps inputs adapter state) {sets : List Nal}
    (all : ∀ unit ∈ sets, unit.isParameterSet = true) :
    (∃ next, Tallied fps (inputs ++ (adapter.observeAll sets).1) (adapter.observeAll sets).2 next) ∧
      ∀ input ∈ (adapter.observeAll sets).1, input.isChunk = false := by
  induction sets generalizing inputs adapter state with
  | nil =>
      rw [Adapter.observeAll, List.append_nil]
      exact ⟨⟨state, tallied⟩, by simp⟩
  | cons unit rest inductionHypothesis =>
      rw [List.forall_mem_cons] at all
      obtain ⟨⟨next, first⟩, silent⟩ := tallied.observe all.1
      obtain ⟨last, others⟩ := inductionHypothesis first all.2
      rw [List.append_assoc] at last
      exact ⟨last, List.forall_mem_append.2 ⟨silent, others⟩⟩

theorem observePayload (tallied : Tallied fps inputs adapter state) (payload : Octets) :
    (∃ next, Tallied fps (inputs ++ (adapter.observePayload payload).1)
        (adapter.observePayload payload).2 next) ∧
      ∀ input ∈ (adapter.observePayload payload).1, input.isChunk = false :=
  tallied.observeAll fun _ member => (List.mem_filter.1 member).2

/-- Other inputs than chunks and configurations are not counted. -/
theorem image (tallied : Tallied fps inputs adapter state) (payload : Octets) :
    Tallied fps (inputs ++ [.image payload]) { adapter with kind := some .jpeg } state where
  strategy := tallied.strategy
  duration := tallied.duration
  frames := by simp [tallied.frames, isChunk]
  awaiting := by simp [tallied.awaiting, begun_snoc, configures, isChunk]
  current configuration same := by
    simpa [description?] using tallied.current configuration same

/-- A chunk is counted, and the next one may be a delta frame. -/
theorem chunk (tallied : Tallied fps inputs adapter state) (data : Octets) (timestamp : UInt64)
    (key : Bool) :
    Tallied fps (inputs ++ [.chunk data timestamp key])
      { adapter with
        strategy := .hardware { state with awaitingKey := false, frames := state.frames + 1 } }
      { state with awaitingKey := false, frames := state.frames + 1 } where
  strategy := rfl
  duration := tallied.duration
  frames := by
    simp only [tallied.frames, List.countP_append, List.countP_singleton, isChunk, if_true]
    exact (UInt64.ofNat_add _ 1).symm
  awaiting := by simp [begun_snoc, configures, isChunk]
  current configuration same := by
    simpa [description?] using tallied.current configuration same

/-- A chunk that is made of a payload fits the inputs so far. -/
theorem chunkFits (tallied : Tallied fps inputs adapter state) {pushed : Pushed}
    {configuration : Configuration} (present : adapter.tracker.current = some configuration)
    (current : pushed.configuration = adapter.tracker.current)
    (first : state.awaitingKey = true →
      (Nal.split pushed.payload).any Nal.isKeyframe = true) :
    ChunkFits fps inputs pushed (Nal.sample (Nal.split pushed.payload))
      (state.frames * state.frameDuration) ((Nal.split pushed.payload).any Nal.isKeyframe) where
  configured := ⟨configuration, current.trans present, (tallied.current configuration present).2⟩
  begins earlier codec width height description between same silent := by
    apply first
    rw [tallied.awaiting, same, begun_of_configure rfl earlier silent]
    rfl
  sample := rfl
  records := Nal.readRecords_flatMap
  keyframe := by rw [← Nal.any_isKeyframe_slices, List.any_eq_true]
  time := by rw [tallied.frames, tallied.duration, ← UInt64.ofNat_mul]

end Tallied

namespace Viewing

theorem emitted_snoc (viewing : Viewing) (pushed : Pushed) (adapter : Adapter) :
    emitted { adapter, pushed := viewing.pushed ++ [pushed] } =
      viewing.emitted ++ pushed.inputs.map (Prod.mk pushed) := by
  rw [emitted, List.flatMap_append, List.flatMap_singleton]
  rfl

/-- The chunks fit what stands before them, and the strategy has counted them. -/
structure Fitting (fps : UInt32) (viewing : Viewing) : Prop where
  fits : ChunksFit fps [] viewing.emitted
  tallied : ∃ state, Tallied fps (viewing.emitted.map Prod.snd) viewing.adapter state

/-- An accepted payload keeps everything in order when its inputs do. -/
theorem Fitting.accept {fps : UInt32} {viewing : Viewing} (fitting : viewing.Fitting fps)
    {pushed : Pushed} {adapter : Adapter} (state : Hardware)
    (tallied : Tallied fps (viewing.emitted.map Prod.snd ++ pushed.inputs) adapter state)
    (fits : ChunksFit fps (viewing.emitted.map Prod.snd) (pushed.inputs.map (Prod.mk pushed))) :
    Fitting fps { adapter, pushed := viewing.pushed ++ [pushed] } where
  fits := by
    rw [emitted_snoc]
    exact chunksFit_append.2 ⟨fitting.fits, fits⟩
  tallied := by
    rw [emitted_snoc, List.map_append, map_snd_map]
    exact ⟨state, tallied⟩

/-- A part of a video leads to configurations and then to one chunk or to none. -/
theorem Fitting.video {fps : UInt32} {viewing : Viewing} (fitting : viewing.Fitting fps)
    {payload : Octets} {inputs : List DecoderInput} {after : Adapter}
    (watched : viewing.watching.Watched payload (.ok inputs, after)) :
    Fitting fps { adapter := after
                  pushed := viewing.pushed ++ [⟨payload, inputs, after.tracker.current⟩] } := by
  obtain ⟨state, tallied⟩ := fitting.tallied
  have watching : Tallied fps (viewing.emitted.map Prod.snd) viewing.watching state :=
    ⟨tallied.strategy, tallied.duration, tallied.frames, tallied.awaiting, tallied.current⟩
  -- The parameter sets of the payload come before its slices.
  obtain ⟨⟨next, observed⟩, silent⟩ := watching.observePayload payload
  cases watched with
  | waiting missing =>
      apply fitting.accept next
      · exact observed
      · exact chunksFit_of_silent silent
  | fed present fed ready kept plain =>
      obtain ⟨configured, described⟩ := observed.current _ present
      rw [observed.strategy, Strategy.feed] at fed
      rcases Hardware.feed_configured configured (Nal.split payload) with none | ⟨first, chunk⟩
      · rw [none] at fed
        cases fed
        rw [List.append_nil]
        apply fitting.accept next
        · exact ⟨rfl, observed.duration, observed.frames, observed.awaiting, observed.current⟩
        · exact chunksFit_of_silent silent
      · rw [chunk] at fed
        cases fed
        apply fitting.accept { next with awaitingKey := false, frames := next.frames + 1 }
        · rw [← List.append_assoc]
          exact observed.chunk _ _ _
        · rw [List.map_append]
          refine chunksFit_append.2 ⟨chunksFit_of_silent silent, ?_, trivial⟩
          rw [map_snd_map]
          intro data timestamp key same
          cases same
          exact observed.chunkFits present rfl first

/-- A payload that is pushed leads to inputs that are counted. -/
theorem Fitting.push {fps : UInt32} {viewing : Viewing} (fitting : viewing.Fitting fps)
    (payload : Octets) : (viewing.step (.push payload)).Fitting fps := by
  obtain ⟨state, tallied⟩ := fitting.tallied
  have took := viewing.adapter.push_took payload
  rw [step]
  generalize viewing.adapter.push payload = outcome at took ⊢
  cases took with
  | nothing empty =>
      apply fitting.accept state
      · rwa [List.append_nil]
      · trivial
  | refused unknown fault => exact fitting
  | image still =>
      apply fitting.accept state
      · exact tallied.image payload
      · exact chunksFit_of_silent (by simp [isChunk])
  | video moving =>
      have ready : viewing.watching.Ready := tallied.ready
      have needs : viewing.watching.strategy.kind.needsConfiguration = true := by
        rw [watching, Adapter.watching, tallied.strategy]
        rfl
      have watched := Adapter.pushVideo_watched ready needs payload
      rw [← watching]
      generalize viewing.watching.pushVideo payload = outcome at watched ⊢
      obtain ⟨result, after⟩ := outcome
      cases result with
      | ok inputs => exact fitting.video watched
      | error fault => cases watched

/-- Every call leaves the chunks in order. -/
theorem Fitting.step {fps : UInt32} {viewing : Viewing} (fitting : viewing.Fitting fps)
    (call : Adapter.Call) : (viewing.step call).Fitting fps := by
  cases call with
  | push payload => exact fitting.push payload
  | setGeometry width height =>
      obtain ⟨state, tallied⟩ := fitting.tallied
      refine ⟨fitting.fits, state, tallied.strategy, tallied.duration, tallied.frames,
        tallied.awaiting, ?_⟩
      intro configuration same
      cases same
  | teardown =>
      obtain ⟨state, tallied⟩ := fitting.tallied
      refine ⟨trivial, state.teardown, Tallied.fresh ?_ tallied.duration rfl rfl⟩
      rw [Viewing.step, Adapter.teardown, tallied.strategy]
      rfl

theorem fitting_opened (fps timescale : UInt32) : (opened .hardware fps timescale).Fitting fps :=
  ⟨trivial, .create fps, Tallied.fresh rfl (Hardware.frameDuration_create fps) rfl rfl⟩

theorem chunkFits_of_chunksFit {fps : UInt32} {earlier : List DecoderInput}
    {emitted before after : List (Pushed × DecoderInput)} {pushed : Pushed} {data : Octets}
    {timestamp : UInt64} {key : Bool} (fits : ChunksFit fps earlier emitted)
    (split : emitted = before ++ (pushed, .chunk data timestamp key) :: after) :
    ChunkFits fps (earlier ++ before.map Prod.snd) pushed data timestamp key := by
  rw [split] at fits
  exact (chunksFit_append.1 fits).2.1 data timestamp key rfl

/-- Each chunk that a decoder gets fits the inputs since the last teardown. -/
theorem chunks_fit (fps timescale : UInt32) (calls : List Adapter.Call)
    {before after : List (Pushed × DecoderInput)} {pushed : Pushed} {data : Octets}
    {timestamp : UInt64} {key : Bool}
    (emitted : ((opened .hardware fps timescale).run calls).emitted =
      before ++ (pushed, .chunk data timestamp key) :: after) :
    ChunkFits fps (before.map Prod.snd) pushed data timestamp key := by
  have fitting : ((opened .hardware fps timescale).run calls).Fitting fps :=
    run_induction (fun viewing call fitting => fitting.step call) (fitting_opened fps timescale)
      calls
  exact chunkFits_of_chunksFit fitting.fits emitted

/-- A new size configures the decoder once more, and the third chunk keeps its time. -/
theorem chunks_fit_resized :
    let delta : Octets := [0, 0, 0, 1, 65, 154, 2, 17]
    let group : Octets := [0, 0, 0, 1, 103, 66, 192, 31, 236, 160, 40, 2, 220, 128,
      0, 0, 0, 1, 104, 206, 60, 128, 0, 0, 0, 1, 101, 136, 132, 33]
    let viewing := (opened .hardware 30 90000).run
      [.push group, .push delta, .setGeometry 720 1280, .push group]
    ∃ before pushed, viewing.emitted =
        before ++ [(pushed, .chunk [0, 0, 0, 4, 101, 136, 132, 33] 66666 true)] ∧
      before.length = 4 ∧
      ChunkFits 30 (before.map Prod.snd) pushed [0, 0, 0, 4, 101, 136, 132, 33] 66666 true := by
  intro delta group viewing
  let last := viewing.pushed.get ⟨2, by decide +kernel⟩
  have emitted : viewing.emitted = viewing.emitted.take 4 ++
      [(last, .chunk [0, 0, 0, 4, 101, 136, 132, 33] 66666 true)] := by
    decide +kernel
  exact ⟨_, _, emitted, by decide +kernel, chunks_fit 30 90000 _ emitted⟩

end Viewing

end Decoder
end Screencast
