/-
This file follows a viewing: the calls of a viewer change an adapter, and each accepted payload
leads to some input for the decoder. A decoder that has a configuration can always be fed.
-/

import Screencast.Proofs.Avc.Records
import Screencast.Proofs.Decoder.Joining

namespace Screencast

namespace Avc

theorem Sps.length_of_parse {unit : Octets} {set : Sps} (parsed : Sps.parse unit = .ok set) :
    4 ≤ unit.length := by
  unfold Sps.parse at parsed
  split at parsed
  case h_1 => simp
  case h_2 => cases parsed

end Avc

namespace Decoder

namespace Configuration

/-- The size is the known one, or that in the set. -/
def HasSize (sps : Octets) (geometry : Option (UInt32 × UInt32)) (width height : UInt32) : Prop :=
  geometry = some (width, height) ∨
    geometry = none ∧ ∃ set, Avc.Sps.parse sps = .ok set ∧ set.width = width ∧ set.height = height

theorem ofParameterSets_eq_ok_iff {sps pps : Octets} {geometry : Option (UInt32 × UInt32)}
    {configuration : Configuration} :
    ofParameterSets sps pps geometry = .ok configuration ↔
      HasSize sps geometry configuration.width configuration.height ∧
        Avc.Record.ofParameterSets sps pps = .ok configuration.record := by
  obtain ⟨width, height, record⟩ := configuration
  unfold ofParameterSets HasSize
  cases geometry with
  | some size =>
      cases Avc.Record.ofParameterSets sps pps <;>
        simp [bind, Except.bind, pure, Except.pure, Prod.ext_iff, and_assoc]
  | none =>
      cases Avc.Sps.parse sps <;> cases Avc.Record.ofParameterSets sps pps <;>
        simp [bind, Except.bind, pure, Except.pure, Except.map, and_assoc]

/-- The record of a configuration holds the sets that made it. -/
theorem sets_of_ofParameterSets {sps pps : Octets} {geometry : Option (UInt32 × UInt32)}
    {configuration : Configuration} (made : ofParameterSets sps pps geometry = .ok configuration) :
    configuration.record.sps = sps ∧ configuration.record.pps = pps :=
  Avc.Record.sets_of_ofParameterSets (ofParameterSets_eq_ok_iff.1 made).2

/-- Sets make a configuration when there is a size, a level and the header of the second set. -/
theorem exists_ofParameterSets_iff {sps pps : Octets} {geometry : Option (UInt32 × UInt32)} :
    (∃ configuration, ofParameterSets sps pps geometry = .ok configuration) ↔
      (∃ width height, HasSize sps geometry width height) ∧ 4 ≤ sps.length ∧ pps ≠ [] := by
  constructor
  · rintro ⟨configuration, made⟩
    obtain ⟨size, recorded⟩ := ofParameterSets_eq_ok_iff.1 made
    exact ⟨⟨_, _, size⟩, Avc.Record.exists_ofParameterSets_iff.1 ⟨_, recorded⟩⟩
  · rintro ⟨⟨width, height, size⟩, sets⟩
    obtain ⟨record, recorded⟩ := Avc.Record.exists_ofParameterSets_iff.2 sets
    exact ⟨⟨width, height, record⟩, ofParameterSets_eq_ok_iff.2 ⟨size, recorded⟩⟩

end Configuration

namespace Tracker

/-- A parameter set replaces the latest one of its kind. -/
def record (tracker : Tracker) (unit : Nal) : Tracker :=
  if unit.isSps then { tracker with sps := some unit.payload }
  else if unit.isPps then { tracker with pps := some unit.payload }
  else tracker

@[simp] theorem record_current (tracker : Tracker) (unit : Nal) :
    (tracker.record unit).current = tracker.current := by
  rw [record]
  split
  · rfl
  · split <;> rfl

@[simp] theorem record_geometry (tracker : Tracker) (unit : Nal) :
    (tracker.record unit).geometry = tracker.geometry := by
  rw [record]
  split
  · rfl
  · split <;> rfl

theorem record_of_other {tracker : Tracker} {unit : Nal} (other : unit.isParameterSet = false) :
    tracker.record unit = tracker := by
  rw [Nal.isParameterSet, Bool.or_eq_false_iff] at other
  simp [record, other]

theorem observe_set (tracker : Tracker) {unit : Nal} (set : unit.isParameterSet = true) :
    tracker.observe unit = (tracker.record unit).update := by
  rw [observe, record]
  split
  · rfl
  · rename_i notSps
    have isPps : unit.isPps = true := by simpa [Nal.isParameterSet, notSps] using set
    rw [if_pos isPps, if_pos isPps]

/-- The tracked pair makes this configuration. -/
def Makes (tracker : Tracker) (configuration : Configuration) : Prop :=
  ∃ sps pps, tracker.sps = some sps ∧ tracker.pps = some pps ∧
    Configuration.ofParameterSets sps pps tracker.geometry = .ok configuration

/-- The tracked pair is the pair in use. -/
def Uses (tracker : Tracker) (configuration : Configuration) : Prop :=
  tracker.current = some configuration ∧ tracker.sps = some configuration.record.sps ∧
    tracker.pps = some configuration.record.pps

theorem isCurrent_iff {tracker : Tracker} {sps pps : Octets} (hasSps : tracker.sps = some sps)
    (hasPps : tracker.pps = some pps) :
    tracker.isCurrent sps pps = true ↔ ∃ current, tracker.Uses current := by
  rw [isCurrent]
  cases used : tracker.current with
  | none => simp [Uses, used]
  | some configuration =>
      simp [Uses, used, hasSps, hasPps, @eq_comm _ sps, @eq_comm _ pps]

/-- A tracked pair makes a new configuration, unless it is malformed or in use already. -/
inductive Updated (tracker : Tracker) :
    Except MediaFault (Option Configuration) × Tracker → Prop
  | made {configuration : Configuration} (makes : tracker.Makes configuration)
      (unused : ¬∃ current, tracker.Uses current) :
      Updated tracker (.ok (some configuration), { tracker with current := some configuration })
  | kept {result : Except MediaFault (Option Configuration)}
      (silent : ∀ configuration, result ≠ .ok (some configuration))
      (used : ∀ configuration, tracker.Makes configuration → ∃ current, tracker.Uses current) :
      Updated tracker (result, tracker)

theorem update_updated (tracker : Tracker) : tracker.Updated tracker.update := by
  rw [update]
  split
  case h_1 sps pps hasSps hasPps =>
    split
    case isTrue current =>
      exact .kept (fun _ same => by cases same) fun _ _ => (isCurrent_iff hasSps hasPps).1 current
    case isFalse unused =>
      rw [isCurrent_iff hasSps hasPps] at unused
      split
      case h_1 configuration made => exact .made ⟨sps, pps, hasSps, hasPps, made⟩ unused
      case h_2 fault failed =>
        refine .kept (fun _ same => by cases same) fun configuration makes => ?_
        obtain ⟨_, _, sameSps, samePps, made⟩ := makes
        rw [hasSps, Option.some.injEq] at sameSps
        rw [hasPps, Option.some.injEq] at samePps
        rw [← sameSps, ← samePps, failed] at made
        cases made
  case h_2 missing =>
    refine .kept (fun _ same => by cases same) fun configuration makes => ?_
    obtain ⟨sps, pps, hasSps, hasPps, -⟩ := makes
    exact absurd hasPps (missing sps pps hasSps)

end Tracker

namespace DecoderInput

/-- These inputs configure a decoder. -/
def configures : DecoderInput → Bool
  | .configure .. => true
  | .initSegment _ => true
  | _ => false

end DecoderInput

namespace Strategy

/-- A strategy that is configured can be fed. -/
def isReady : Strategy → Bool
  | .hardware state => state.configured
  | .buffered state => state.writer.isSome
  | .raw => true

theorem isReady_configure (strategy : Strategy) (configuration : Configuration) :
    (strategy.configure configuration).2.isReady = true := by
  cases strategy <;> rfl

/-- Only a strategy that is not ready refuses a group of units. -/
theorem feed_ready {strategy : Strategy} (ready : strategy.isReady = true) (units : List Nal) :
    ∃ inputs next, strategy.feed units = (.ok inputs, next) ∧ next.isReady = true ∧
      next.kind = strategy.kind ∧ ∀ input ∈ inputs, input.configures = false := by
  cases strategy with
  | hardware state =>
      rw [isReady] at ready
      simp only [feed, Hardware.feed, ready, Bool.not_true, Bool.false_eq_true, if_false]
      split
      case isTrue => exact ⟨_, _, rfl, ready, rfl, by simp⟩
      case isFalse => exact ⟨_, _, rfl, rfl, rfl, by simp [DecoderInput.configures]⟩
  | buffered state =>
      obtain ⟨writer, present⟩ := Option.isSome_iff_exists.1 ready
      simp only [feed, Buffered.feed, present]
      split
      case isTrue => exact ⟨_, _, rfl, ready, rfl, by simp⟩
      case isFalse => exact ⟨_, _, rfl, rfl, rfl, by simp [DecoderInput.configures]⟩
  | raw =>
      refine ⟨_, _, rfl, rfl, rfl, ?_⟩
      split <;> simp [DecoderInput.configures]

end Strategy

namespace Adapter

/-- A parameter set configures the decoder anew, or the old configuration stays. -/
inductive Observed (adapter : Adapter) (unit : Nal) : List DecoderInput × Adapter → Prop
  | configured {configuration : Configuration}
      (makes : (adapter.tracker.record unit).Makes configuration)
      (unused : ¬∃ current, (adapter.tracker.record unit).Uses current) :
      Observed adapter unit ((adapter.strategy.configure configuration).1,
        { adapter with
          tracker := { adapter.tracker.record unit with current := some configuration }
          strategy := (adapter.strategy.configure configuration).2 })
  | kept (used : ∀ configuration, (adapter.tracker.record unit).Makes configuration →
        ∃ current, (adapter.tracker.record unit).Uses current) :
      Observed adapter unit ([], { adapter with tracker := adapter.tracker.record unit })

theorem observe_observed (adapter : Adapter) {unit : Nal} (set : unit.isParameterSet = true) :
    adapter.Observed unit (adapter.observe unit) := by
  have updated := (adapter.tracker.record unit).update_updated
  rw [observe, Tracker.observe_set _ set]
  generalize (adapter.tracker.record unit).update = outcome at updated
  cases updated with
  | made makes unused => exact .configured makes unused
  | kept silent used =>
      split
      case h_1 configuration tracker same =>
        cases same
        exact absurd rfl (silent configuration)
      case h_2 same =>
        cases same
        exact .kept used

/-- What every parameter set keeps holds behind all of them. -/
theorem observeAll_keeps (holds : Adapter → Prop)
    (next : ∀ adapter unit, unit.isParameterSet = true → holds adapter →
      holds (adapter.observe unit).2)
    {sets : List Nal} (all : ∀ unit ∈ sets, unit.isParameterSet = true) {adapter : Adapter}
    (first : holds adapter) : holds (adapter.observeAll sets).2 := by
  induction sets generalizing adapter with
  | nil => exact first
  | cons unit rest inductionHypothesis =>
      rw [List.forall_mem_cons] at all
      exact inductionHypothesis all.2 (next adapter unit all.1 first)

/-- A decoder with a configuration can be fed. -/
def Ready (adapter : Adapter) : Prop :=
  adapter.tracker.current.isSome = true → adapter.strategy.isReady = true

theorem Ready.observe {adapter : Adapter} (ready : adapter.Ready) {unit : Nal}
    (set : unit.isParameterSet = true) : (adapter.observe unit).2.Ready := by
  have observed := adapter.observe_observed set
  generalize adapter.observe unit = outcome at observed ⊢
  cases observed with
  | configured makes unused =>
      intro _
      exact Strategy.isReady_configure adapter.strategy _
  | kept used =>
      intro some
      exact ready (by simpa using some)

theorem kind_observe (adapter : Adapter) {unit : Nal} (set : unit.isParameterSet = true) :
    (adapter.observe unit).2.strategy.kind = adapter.strategy.kind := by
  have observed := adapter.observe_observed set
  generalize adapter.observe unit = outcome at observed ⊢
  cases observed with
  | configured makes unused => exact kind_configure adapter.strategy _
  | kept used => rfl

/-- This is what the parameter sets of a payload lead to. -/
def observePayload (adapter : Adapter) (payload : Octets) : List DecoderInput × Adapter :=
  adapter.observeAll ((Nal.split payload).filter Nal.isParameterSet)

theorem observePayload_keeps (holds : Adapter → Prop)
    (next : ∀ adapter unit, unit.isParameterSet = true → holds adapter →
      holds (adapter.observe unit).2)
    {adapter : Adapter} (first : holds adapter) (payload : Octets) :
    holds (adapter.observePayload payload).2 :=
  observeAll_keeps holds next (fun _ member => (List.mem_filter.1 member).2) first

/-- A group of units is fed behind its parameter sets once there is a configuration. -/
inductive Watched (adapter : Adapter) (payload : Octets) :
    Except MediaFault (List DecoderInput) × Adapter → Prop
  | waiting (missing : (adapter.observePayload payload).2.tracker.current = none) :
      Watched adapter payload
        (.ok (adapter.observePayload payload).1, (adapter.observePayload payload).2)
  | fed {configuration : Configuration} {inputs : List DecoderInput} {strategy : Strategy}
      (present : (adapter.observePayload payload).2.tracker.current = some configuration)
      (fed : (adapter.observePayload payload).2.strategy.feed (Nal.split payload) =
        (.ok inputs, strategy))
      (ready : strategy.isReady = true)
      (kept : strategy.kind = (adapter.observePayload payload).2.strategy.kind)
      (plain : ∀ input ∈ inputs, input.configures = false) :
      Watched adapter payload (.ok ((adapter.observePayload payload).1 ++ inputs),
        { (adapter.observePayload payload).2 with strategy })

/-- A strategy that needs a configuration never refuses what it is fed here. -/
theorem pushVideo_watched {adapter : Adapter} (ready : adapter.Ready)
    (needs : adapter.strategy.kind.needsConfiguration = true) (payload : Octets) :
    adapter.Watched payload (adapter.pushVideo payload) := by
  have kept : (adapter.observePayload payload).2.Ready ∧
      (adapter.observePayload payload).2.strategy.kind.needsConfiguration = true := by
    apply observePayload_keeps (fun adapter =>
      adapter.Ready ∧ adapter.strategy.kind.needsConfiguration = true) _ ⟨ready, needs⟩
    rintro adapter unit set ⟨ready, needs⟩
    refine ⟨ready.observe set, ?_⟩
    rwa [kind_observe adapter set]
  rw [pushVideo, ← observePayload]
  simp only [kept.2, Bool.true_and]
  split
  case isTrue missing => exact .waiting (Option.isNone_iff_eq_none.1 missing)
  case isFalse missing =>
    rw [Option.isNone_iff_eq_none] at missing
    obtain ⟨configuration, present⟩ := Option.ne_none_iff_exists'.1 missing
    have able := kept.1 (by rw [present]; rfl)
    obtain ⟨inputs, next, fed, ready, same, plain⟩ := Strategy.feed_ready able (Nal.split payload)
    rw [fed]
    exact .fed present fed ready same plain

/-- This is the kind of the stream, once the payload showed it or an earlier one did. -/
def kindWith? (adapter : Adapter) (payload : Octets) : Option StreamKind :=
  adapter.kind.or (StreamKind.detect? payload)

theorem kindWith?_of_kind {adapter : Adapter} {kind : StreamKind}
    (known : adapter.kind = some kind) (payload : Octets) :
    adapter.kindWith? payload = some kind := by
  rw [kindWith?, known, Option.some_or]

theorem push_nil (adapter : Adapter) : adapter.push [] = (.ok [], adapter) := rfl

theorem push_unknown {adapter : Adapter} {payload : Octets} (filled : payload ≠ [])
    (unknown : adapter.kindWith? payload = none) :
    adapter.push payload = (.error (.unsupportedStream (payload.take 4)), adapter) := by
  rw [kindWith?, Option.or_eq_none_iff] at unknown
  rw [push, if_neg (by simpa using filled), unknown.1, unknown.2]

theorem push_known {adapter : Adapter} {payload : Octets} {kind : StreamKind}
    (filled : payload ≠ []) (known : adapter.kindWith? payload = some kind) :
    adapter.push payload = { adapter with kind := some kind }.pushKnown payload kind := by
  rw [push, if_neg (by simpa using filled)]
  rw [kindWith?] at known
  split
  case h_1 same =>
    rw [same, Option.some_or, Option.some.injEq] at known
    rw [known, ← same.trans (congrArg some known)]
  case h_2 unknown =>
    rw [unknown, Option.none_or] at known
    rw [known]

/-- A payload is nothing, a fault, an image or a part of a video. -/
inductive Took (adapter : Adapter) (payload : Octets) :
    Except MediaFault (List DecoderInput) × Adapter → Prop
  | nothing (empty : payload = []) : Took adapter payload (.ok [], adapter)
  | refused (unknown : adapter.kind = none) (fault : MediaFault) :
      Took adapter payload (.error fault, adapter)
  | image (still : adapter.kind ≠ some .h264) :
      Took adapter payload (.ok [.image payload], { adapter with kind := some .jpeg })
  | video (moving : adapter.kind ≠ some .jpeg) :
      Took adapter payload ((watching adapter.strategy adapter.tracker).pushVideo payload)

theorem push_took (adapter : Adapter) (payload : Octets) :
    adapter.Took payload (adapter.push payload) := by
  by_cases filled : payload = []
  case pos =>
    rw [filled]
    exact .nothing rfl
  case neg =>
    cases judged : adapter.kindWith? payload with
    | none =>
        rw [push_unknown filled judged]
        exact .refused (Option.or_eq_none_iff.1 judged).1 _
    | some kind =>
        have other {old : StreamKind} (known : adapter.kind = some old) : old = kind :=
          Option.some.inj ((kindWith?_of_kind known payload).symm.trans judged)
        rw [push_known filled judged]
        cases kind with
        | jpeg => exact .image fun known => by cases other known
        | h264 => exact .video fun known => by cases other known

/-- These calls change an adapter. -/
inductive Call
  | push (payload : Octets)
  | setGeometry (width height : UInt32)
  | teardown

end Adapter

/-- An accepted payload led to this. -/
structure Pushed where
  payload : Octets
  inputs : List DecoderInput
  /-- The decoder has this configuration behind the payload. -/
  configuration : Option Configuration
  deriving DecidableEq

/-- A viewing consists of an adapter and what was pushed since it was torn down last. -/
structure Viewing where
  adapter : Adapter
  pushed : List Pushed := []
  deriving DecidableEq

namespace Viewing

def step (viewing : Viewing) : Adapter.Call → Viewing
  | .push payload =>
      match viewing.adapter.push payload with
      | (.ok inputs, adapter) =>
          { adapter, pushed := viewing.pushed ++ [⟨payload, inputs, adapter.tracker.current⟩] }
      | (.error _, adapter) => { viewing with adapter }
  | .setGeometry width height =>
      { viewing with adapter := viewing.adapter.setGeometry width height }
  | .teardown => { adapter := viewing.adapter.teardown }

def run (viewing : Viewing) (calls : List Adapter.Call) : Viewing := calls.foldl step viewing

/-- A viewing begins with a strategy that has not been fed. -/
def opened (kind : StrategyKind) (fps timescale : UInt32) : Viewing :=
  { adapter := { strategy := .create kind fps timescale } }

/-- What holds at first and is kept by every call holds after every run. -/
theorem run_induction {holds : Viewing → Prop}
    (next : ∀ viewing call, holds viewing → holds (viewing.step call)) {viewing : Viewing}
    (first : holds viewing) (calls : List Adapter.Call) : holds (viewing.run calls) := by
  induction calls generalizing viewing with
  | nil => exact first
  | cons call rest inductionHypothesis => exact inductionHypothesis (next viewing call first)

/-- This adapter knows that its stream is video. -/
def watching (viewing : Viewing) : Adapter :=
  Adapter.watching viewing.adapter.strategy viewing.adapter.tracker

/-- The decoder gets these inputs, each with the payload that led to it. -/
def emitted (viewing : Viewing) : List (Pushed × DecoderInput) :=
  viewing.pushed.flatMap fun pushed => pushed.inputs.map (Prod.mk pushed)

end Viewing

end Decoder

end Screencast
