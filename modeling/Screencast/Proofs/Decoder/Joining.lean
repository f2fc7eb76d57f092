/-
This file shows that a decoder may join a stream with the units of the keyframe store. It gets the
same input as from the packet of the keyframe.
-/

import Screencast.Decoder.Adapter
import Screencast.Proofs.Broadcast.Snapshots

namespace Screencast.Decoder

namespace Strategy

/-- Only the slices of a group become input of a decoder that is configured out of band. -/
theorem feed_slices {strategy : Strategy} (needs : strategy.kind.needsConfiguration = true)
    (units : List Nal) : strategy.feed units = strategy.feed (units.filter Nal.isSlice) := by
  have sample : Nal.sample (units.filter Nal.isSlice) = Nal.sample units := by
    rw [Nal.sample, List.filter_filter, Nal.sample]
    simp only [Bool.and_self]
  have slices : (units.filter Nal.isSlice).any Nal.isSlice = units.any Nal.isSlice := by
    rw [List.any_filter]
    simp only [Bool.and_self]
  have keyframes := Nal.any_isKeyframe_slices units
  cases strategy with
  | hardware state => simp only [feed, Hardware.feed, sample, keyframes]
  | buffered state =>
      simp only [feed, Buffered.feed, Mp4.Writer.mediaSegment, sample, slices, keyframes]
  | raw => cases needs

/-- A decoder that is configured gets nothing from a group without slices. -/
theorem feed_nil_configure {strategy : Strategy} (needs : strategy.kind.needsConfiguration = true)
    (configuration : Configuration) :
    (strategy.configure configuration).2.feed [] =
      (.ok [], (strategy.configure configuration).2) := by
  cases strategy with
  | hardware state => rfl
  | buffered state => rfl
  | raw => cases needs

/-- A decoder that is configured begins with a keyframe. -/
theorem feed_keyframe_configure {strategy : Strategy}
    (needs : strategy.kind.needsConfiguration = true) (configuration : Configuration)
    {idr : Nal} (keyframe : idr.isKeyframe = true) :
    ∃ input, ((strategy.configure configuration).2.feed [idr]).1 = .ok [input] := by
  have slice := Nal.isSlice_of_isKeyframe keyframe
  cases strategy with
  | hardware state =>
      simp [configure, Hardware.configure, feed, Hardware.feed, Nal.sample, Nal.lengthPrefixed,
        Nal.payload, slice, keyframe]
  | buffered state => simp [configure, Buffered.configure, feed, Buffered.feed, slice, keyframe]
  | raw => cases needs

end Strategy

namespace Adapter

/-- The payloads are pushed one by one, and their inputs are joined. -/
def pushAll (adapter : Adapter) : List Octets → Except MediaFault (List DecoderInput) × Adapter
  | [] => (.ok [], adapter)
  | payload :: rest =>
      let (result, adapter) := adapter.push payload
      let (more, adapter) := adapter.pushAll rest
      (do return (← result) ++ (← more), adapter)

/-- The adapter knows that it watches video. -/
def watching (strategy : Strategy) (tracker : Tracker) : Adapter :=
  { strategy, tracker, kind := some .h264 }

/-- A payload that begins with a zero octet is video. -/
theorem push_video {adapter : Adapter} (kind : adapter.kind = none ∨ adapter.kind = some .h264)
    {payload : Octets} (zero : payload.head? = some 0) :
    adapter.push payload = (watching adapter.strategy adapter.tracker).pushVideo payload := by
  obtain ⟨rest, rfl⟩ := List.head?_eq_some_iff.1 zero
  rcases kind with unknown | known
  · simp [push, unknown, StreamKind.detect?, pushKnown, watching]
  · have same : adapter = watching adapter.strategy adapter.tracker := by
      rw [watching, ← known]
    rw [← same]
    simp [push, known, pushKnown]

/-- These are the tracked sets of a stream whose configuration may be malformed. -/
def pairedTracker (geometry : Option (UInt32 × UInt32)) (sps pps : Nal) : Tracker where
  sps := some sps.payload
  pps := some pps.payload
  geometry := geometry
  current := (Configuration.ofParameterSets sps.payload pps.payload geometry).toOption

/-- This is what a first pair of sets leads to. -/
def paired (strategy : Strategy) (geometry : Option (UInt32 × UInt32)) (sps pps : Nal) :
    List DecoderInput × Adapter :=
  match Configuration.ofParameterSets sps.payload pps.payload geometry with
  | .ok configuration =>
      let (inputs, strategy) := strategy.configure configuration
      (inputs, watching strategy (pairedTracker geometry sps pps))
  | .error _ => ([], watching strategy (pairedTracker geometry sps pps))

section Pair

variable {sps pps : Nal} (isSps : sps.isSps = true) (isPps : pps.isPps = true)
  (strategy : Strategy) (geometry : Option (UInt32 × UInt32))

include isSps in
theorem observe_sps :
    (watching strategy { geometry }).observe sps =
      ([], watching strategy { sps := some sps.payload, geometry }) := by
  simp [observe, watching, Tracker.observe, Tracker.update, isSps]

include isPps in
theorem observe_pps :
    (watching strategy { geometry }).observe pps =
      ([], watching strategy { pps := some pps.payload, geometry }) := by
  simp [observe, watching, Tracker.observe, Tracker.update, isPps,
    Nal.isSps_of_isPps isPps]

include isPps in
theorem observe_pps_behind_sps :
    (watching strategy { sps := some sps.payload, geometry }).observe pps =
      paired strategy geometry sps pps := by
  rw [paired, pairedTracker]
  cases made : Configuration.ofParameterSets sps.payload pps.payload geometry <;>
    simp [observe, watching, Tracker.observe, Tracker.update, Tracker.isCurrent, isPps,
      Nal.isSps_of_isPps isPps, made, Except.toOption]

include isSps in
theorem observe_sps_behind_pps :
    (watching strategy { pps := some pps.payload, geometry }).observe sps =
      paired strategy geometry sps pps := by
  rw [paired, pairedTracker]
  cases made : Configuration.ofParameterSets sps.payload pps.payload geometry <;>
    simp [observe, watching, Tracker.observe, Tracker.update, Tracker.isCurrent, isSps, made,
      Except.toOption]

include isSps isPps in
/-- The order of the two sets does not matter. -/
theorem observeAll_pair {sets : List Nal} (pair : sets = [sps, pps] ∨ sets = [pps, sps]) :
    (watching strategy { geometry }).observeAll sets = paired strategy geometry sps pps := by
  rcases pair with rfl | rfl
  · simp only [observeAll, observe_sps isSps, observe_pps_behind_sps isPps, List.nil_append,
      List.append_nil]
  · simp only [observeAll, observe_pps isPps, observe_sps_behind_pps isSps, List.nil_append,
      List.append_nil]

end Pair

/-- One set of each kind stands in one of two orders. -/
theorem sets_of_one_each {units : List Nal} {sps pps : Nal}
    (oneSps : units.filter Nal.isSps = [sps]) (onePps : units.filter Nal.isPps = [pps]) :
    units.filter Nal.isParameterSet = [sps, pps] ∨
      units.filter Nal.isParameterSet = [pps, sps] := by
  induction units with
  | nil => cases oneSps
  | cons unit rest inductionHypothesis =>
      cases isSps : unit.isSps with
      | true =>
          have notPps := Nal.isPps_of_isSps isSps
          rw [List.filter_cons_of_pos isSps, List.cons.injEq] at oneSps
          rw [List.filter_cons_of_neg (by simp [notPps])] at onePps
          have others : rest.filter Nal.isParameterSet = rest.filter Nal.isPps := by
            apply List.filter_congr
            intro other member
            have none := List.filter_eq_nil_iff.1 oneSps.2 other member
            simp [Nal.isParameterSet, none]
          left
          rw [List.filter_cons_of_pos (by simp [Nal.isParameterSet, isSps]), others, onePps,
            oneSps.1]
      | false =>
          rw [List.filter_cons_of_neg (by simp [isSps])] at oneSps
          cases isPps : unit.isPps with
          | true =>
              rw [List.filter_cons_of_pos isPps, List.cons.injEq] at onePps
              have others : rest.filter Nal.isParameterSet = rest.filter Nal.isSps := by
                apply List.filter_congr
                intro other member
                have none := List.filter_eq_nil_iff.1 onePps.2 other member
                simp [Nal.isParameterSet, none]
              right
              rw [List.filter_cons_of_pos (by simp [Nal.isParameterSet, isPps]), others, oneSps,
                onePps.1]
          | false =>
              rw [List.filter_cons_of_neg (by simp [isPps])] at onePps
              rw [List.filter_cons_of_neg (by simp [Nal.isParameterSet, isSps, isPps])]
              exact inductionHypothesis oneSps onePps

theorem kind_of_paired (strategy : Strategy) (geometry : Option (UInt32 × UInt32))
    (sps pps : Nal) : (paired strategy geometry sps pps).2.kind = some .h264 := by
  rw [paired]
  split <;> rfl

/-- This is what a keyframe leads to behind a first pair of sets. -/
def joined (strategy : Strategy) (geometry : Option (UInt32 × UInt32)) (sps pps idr : Nal) :
    Except MediaFault (List DecoderInput) × Adapter :=
  let (inputs, adapter) := paired strategy geometry sps pps
  if adapter.tracker.current.isNone then (.ok inputs, adapter)
  else
    let (result, strategy) := adapter.strategy.feed [idr]
    (result.map (inputs ++ ·), { adapter with strategy })

theorem kind_configure (strategy : Strategy) (configuration : Configuration) :
    (strategy.configure configuration).2.kind = strategy.kind := by
  cases strategy <;> rfl

theorem kind_paired (strategy : Strategy) (geometry : Option (UInt32 × UInt32)) (sps pps : Nal) :
    (paired strategy geometry sps pps).2.strategy.kind = strategy.kind := by
  rw [paired]
  split
  · exact kind_configure strategy _
  · rfl

/-- A payload with both sets and a keyframe is pushed at once. -/
theorem pushVideo_joined {strategy : Strategy} (needs : strategy.kind.needsConfiguration = true)
    (geometry : Option (UInt32 × UInt32)) {payload : Octets} {sps pps idr : Nal}
    (oneSps : (Nal.split payload).filter Nal.isSps = [sps])
    (onePps : (Nal.split payload).filter Nal.isPps = [pps])
    (oneSlice : (Nal.split payload).filter Nal.isSlice = [idr]) :
    (watching strategy { geometry }).pushVideo payload = joined strategy geometry sps pps idr := by
  have isSps : sps.isSps = true := (List.mem_filter.1 (oneSps ▸ List.mem_cons_self)).2
  have isPps : pps.isPps = true := (List.mem_filter.1 (onePps ▸ List.mem_cons_self)).2
  have pair := observeAll_pair isSps isPps strategy geometry (sets_of_one_each oneSps onePps)
  have kind := kind_paired strategy geometry sps pps
  have fed := Strategy.feed_slices (kind ▸ needs) (Nal.split payload)
  rw [oneSlice] at fed
  simp only [pushVideo, joined, pair, kind, needs, Bool.true_and, fed]

section Parts

variable {strategy : Strategy} (needs : strategy.kind.needsConfiguration = true)
  (geometry : Option (UInt32 × UInt32)) (sps pps : Nal) {idr : Nal}

include needs in
/-- The first set alone configures nothing. -/
theorem pushVideo_sps (isSps : sps.isSps = true) (alone : Nal.split sps.data = [sps]) :
    (watching strategy { geometry }).pushVideo sps.data =
      (.ok [], watching strategy { sps := some sps.payload, geometry }) := by
  have isSet : sps.isParameterSet = true := by simp [Nal.isParameterSet, isSps]
  simp only [pushVideo, alone, List.filter_cons_of_pos isSet, List.filter_nil, observeAll,
    observe_sps isSps, List.append_nil]
  simp [watching, needs]

include needs in
/-- The second set has no slice that could be fed. -/
theorem pushVideo_pps (isPps : pps.isPps = true) (alone : Nal.split pps.data = [pps]) :
    (watching strategy { sps := some sps.payload, geometry }).pushVideo pps.data =
      (.ok (paired strategy geometry sps pps).1, (paired strategy geometry sps pps).2) := by
  have isSet : pps.isParameterSet = true := by simp [Nal.isParameterSet, isPps]
  have noSlice : [pps].filter Nal.isSlice = [] := by
    rw [List.filter_cons_of_neg (by simp [Nal.isSlice_of_isParameterSet isSet]), List.filter_nil]
  simp only [pushVideo, alone, List.filter_cons_of_pos isSet, List.filter_nil, observeAll,
    observe_pps_behind_sps isPps, List.append_nil, kind_paired, needs, Bool.true_and]
  cases made : Configuration.ofParameterSets sps.payload pps.payload geometry with
  | error fault => simp [paired, pairedTracker, watching, made, Except.toOption]
  | ok configuration =>
      have kind := kind_configure strategy configuration
      have fed := Strategy.feed_slices (kind ▸ needs) [pps]
      rw [noSlice, Strategy.feed_nil_configure needs] at fed
      simp [paired, pairedTracker, watching, made, fed, Except.toOption, Except.map]

include needs in
/-- The keyframe is fed behind a pair of sets that configures the decoder. -/
theorem pushVideo_idr (keyframe : idr.isKeyframe = true) (alone : Nal.split idr.data = [idr]) :
    ∃ inputs, ((paired strategy geometry sps pps).2.pushVideo idr.data).1 = .ok inputs ∧
      joined strategy geometry sps pps idr =
        (.ok ((paired strategy geometry sps pps).1 ++ inputs),
          ((paired strategy geometry sps pps).2.pushVideo idr.data).2) := by
  have noSet : idr.isParameterSet = false :=
    Nal.isParameterSet_of_isSlice (Nal.isSlice_of_isKeyframe keyframe)
  have sets : [idr].filter Nal.isParameterSet = [] := by
    rw [List.filter_cons_of_neg (by simp [noSet]), List.filter_nil]
  simp only [pushVideo, alone, sets, observeAll, kind_paired, needs, Bool.true_and, joined]
  cases made : Configuration.ofParameterSets sps.payload pps.payload geometry with
  | error fault =>
      exact ⟨[], by simp [paired, pairedTracker, watching, made, Except.toOption]⟩
  | ok configuration =>
      obtain ⟨input, fed⟩ := Strategy.feed_keyframe_configure needs configuration keyframe
      refine ⟨[input], ?_⟩
      simp [paired, pairedTracker, watching, made, fed, Except.toOption, Except.map]

end Parts

/-- The two sets and the keyframe may come one by one. -/
theorem pushAll_joined {strategy : Strategy} (needs : strategy.kind.needsConfiguration = true)
    (geometry : Option (UInt32 × UInt32)) {sps pps idr : Nal} (isSps : sps.isSps = true)
    (isPps : pps.isPps = true) (keyframe : idr.isKeyframe = true)
    (alone : ∀ unit ∈ [sps, pps, idr], Nal.split unit.data = [unit]) :
    ∃ inputs adapter, joined strategy geometry sps pps idr = (.ok inputs, adapter) ∧
      ({ strategy, tracker := { geometry } } : Adapter).pushAll [sps.data, pps.data, idr.data] =
        (.ok inputs, adapter) := by
  have zero (unit : Nal) : unit.data.head? = some 0 := by
    have zero := Nal.head?_data_append unit []
    rwa [List.append_nil] at zero
  have first : ({ strategy, tracker := { geometry } } : Adapter).push sps.data = _ :=
    (push_video (.inl rfl) (zero sps)).trans
      (pushVideo_sps needs geometry sps isSps (alone sps (by simp)))
  have second : (watching strategy { sps := some sps.payload, geometry }).push pps.data = _ :=
    (push_video (.inr rfl) (zero pps)).trans
      (pushVideo_pps needs geometry sps pps isPps (alone pps (by simp)))
  obtain ⟨inputs, third, both⟩ :=
    pushVideo_idr needs geometry sps pps keyframe (alone idr (by simp))
  have known := kind_of_paired strategy geometry sps pps
  have same : watching (paired strategy geometry sps pps).2.strategy
      (paired strategy geometry sps pps).2.tracker = (paired strategy geometry sps pps).2 := by
    rw [watching, ← known]
  have last := push_video (.inr known) (zero idr)
  rw [same] at last
  refine ⟨_, _, both, ?_⟩
  simp only [pushAll, first, second, last, third]
  simp [bind, Except.bind, pure, Except.pure]

/-- A pair of sets that is not malformed is not lost. -/
theorem joined_eq_nil_iff {strategy : Strategy} (needs : strategy.kind.needsConfiguration = true)
    (geometry : Option (UInt32 × UInt32)) (sps pps : Nal) {idr : Nal}
    (keyframe : idr.isKeyframe = true) :
    (joined strategy geometry sps pps idr).1 = .ok [] ↔
      ∃ fault, Configuration.ofParameterSets sps.payload pps.payload geometry = .error fault := by
  cases made : Configuration.ofParameterSets sps.payload pps.payload geometry with
  | error fault => simp [joined, paired, pairedTracker, watching, made, Except.toOption]
  | ok configuration =>
      obtain ⟨input, fed⟩ := Strategy.feed_keyframe_configure needs configuration keyframe
      simp [joined, paired, pairedTracker, watching, made, fed, Except.toOption, Except.map]

/-- A decoder that is configured out of band may join a stream with the units of a store that has
observed all packets. When the last packet with a keyframe has one set of each kind, these units are
its sets and its keyframe. One by one they give the decoder the same input as the packet, and leave
the same state, also where the sets are malformed. Only then there is no input. -/
theorem join_snapshot (chunks : List Octets) (packet : Octets) (sps pps : Nal)
    (last : ((Recorder.Packetizer.packets chunks).filter fun packet =>
      (Nal.split packet).any Nal.isKeyframe).getLast? = some packet)
    (oneSps : (Nal.split packet).filter Nal.isSps = [sps])
    (onePps : (Nal.split packet).filter Nal.isPps = [pps])
    (kind : StrategyKind) (needs : kind.needsConfiguration = true) (fps timescale : UInt32)
    (geometry : Option (UInt32 × UInt32)) :
    let store := Broadcast.KeyframeStore.observeAll (Recorder.Packetizer.packets chunks)
    let fresh : Adapter := { strategy := .create kind fps timescale, tracker := { geometry } }
    ∃ idr inputs adapter,
      (Nal.split packet).filter Nal.isKeyframe = [idr] ∧
      store.snapshot = [sps.data, pps.data, idr.data] ∧
      fresh.push packet = (.ok inputs, adapter) ∧
      fresh.pushAll store.snapshot = (.ok inputs, adapter) ∧
      (inputs = [] ↔
        ∃ fault, Configuration.ofParameterSets sps.payload pps.payload geometry = .error fault) := by
  intro store fresh
  obtain ⟨idr, oneIdr, oneSlice, snapshot⟩ :=
    Broadcast.KeyframeStore.snapshot_packets last oneSps onePps
  have configured : fresh.strategy.kind.needsConfiguration = true := by
    cases kind with
    | hardware => rfl
    | buffered => rfl
    | raw => cases needs
  have memberSps : sps ∈ (Nal.split packet).filter Nal.isSps := oneSps ▸ List.mem_cons_self
  have memberPps : pps ∈ (Nal.split packet).filter Nal.isPps := onePps ▸ List.mem_cons_self
  have memberIdr : idr ∈ (Nal.split packet).filter Nal.isKeyframe := oneIdr ▸ List.mem_cons_self
  obtain ⟨insideSps, isSps⟩ := List.mem_filter.1 memberSps
  obtain ⟨insidePps, isPps⟩ := List.mem_filter.1 memberPps
  obtain ⟨insideIdr, keyframe⟩ := List.mem_filter.1 memberIdr
  have alone : ∀ unit ∈ [sps, pps, idr], Nal.split unit.data = [unit] := by
    intro unit member
    have inside : unit ∈ Nal.split packet := by
      simp only [List.mem_cons, List.not_mem_nil, or_false] at member
      rcases member with rfl | rfl | rfl
      · exact insideSps
      · exact insidePps
      · exact insideIdr
    exact Nal.split_data (Nal.not_standsAt_payload inside)
  obtain ⟨inputs, adapter, outcome, parts⟩ :=
    pushAll_joined configured geometry isSps isPps keyframe alone
  have sent := (List.mem_filter.1 (List.mem_of_getLast? last)).1
  have whole : fresh.push packet = joined fresh.strategy geometry sps pps idr := by
    have zero := Recorder.Packetizer.head?_of_mem_packets sent (List.ne_nil_of_mem insideIdr)
    rw [push_video (.inl rfl) zero]
    exact pushVideo_joined configured geometry oneSps onePps oneSlice
  have nothing := joined_eq_nil_iff configured geometry sps pps keyframe
  rw [outcome] at whole nothing
  refine ⟨idr, inputs, adapter, oneIdr, snapshot, whole, ?_, ?_⟩
  · rw [snapshot]
    exact parts
  · rw [← nothing]
    simp

/-- The sets come in the other order and with a delimiter, and a later picture is no keyframe. -/
theorem join_snapshot_reversed :
    let chunks : List Octets := [[0, 0, 1, 9, 0x10, 0, 0, 1, 0x68, 0xCE, 0x3C, 0x80, 0, 0, 0],
      [1, 0x67, 0x42, 0xC0, 0x1F, 0xEC, 0xA0, 0x28, 0x02, 0xDC, 0x80, 0, 0, 1, 0x65, 0x88, 0, 0],
      [1, 0x41, 0x9A]]
    let packet : Octets := [0, 0, 1, 0x68, 0xCE, 0x3C, 0x80, 0, 0, 0, 1, 0x67, 0x42, 0xC0, 0x1F,
      0xEC, 0xA0, 0x28, 0x02, 0xDC, 0x80, 0, 0, 1, 9, 0x10, 0, 0, 1, 0x65, 0x88]
    let sps : Nal := ⟨.long, 0x67, [0x42, 0xC0, 0x1F, 0xEC, 0xA0, 0x28, 0x02, 0xDC, 0x80]⟩
    let pps : Nal := ⟨.short, 0x68, [0xCE, 0x3C, 0x80]⟩
    let fresh : Adapter := { strategy := .create .hardware 60 90000 }
    ((Recorder.Packetizer.packets chunks).filter fun packet =>
        (Nal.split packet).any Nal.isKeyframe).getLast? = some packet ∧
      (Nal.split packet).filter Nal.isSps = [sps] ∧
      (Nal.split packet).filter Nal.isPps = [pps] ∧
      fresh.pushAll [sps.data, pps.data, [0, 0, 1, 0x65, 0x88]] = fresh.push packet := by
  intro chunks packet sps pps fresh
  have last : ((Recorder.Packetizer.packets chunks).filter fun packet =>
      (Nal.split packet).any Nal.isKeyframe).getLast? = some packet := by decide +kernel
  have oneSps : (Nal.split packet).filter Nal.isSps = [sps] := by decide +kernel
  have onePps : (Nal.split packet).filter Nal.isPps = [pps] := by decide +kernel
  obtain ⟨idr, inputs, adapter, oneIdr, snapshot, whole, parts, -⟩ :=
    join_snapshot chunks packet sps pps last oneSps onePps .hardware rfl 60 90000 none
  have found : (Nal.split packet).filter Nal.isKeyframe = [⟨.short, 0x65, [0x88]⟩] := by
    decide +kernel
  have same : idr = ⟨.short, 0x65, [0x88]⟩ := by
    rw [oneIdr] at found
    exact List.head_eq_of_cons_eq found
  rw [snapshot, same] at parts
  exact ⟨last, oneSps, onePps, parts.trans whole.symm⟩

end Adapter

end Screencast.Decoder
