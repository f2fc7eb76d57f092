/-
This file says what a store holds that has observed the packets of a stream: the units of the last
packet with a keyframe.
-/

import Screencast.Proofs.Broadcast.Keyframes
import Screencast.Proofs.Recorder.Keyframes

namespace Screencast.Broadcast.KeyframeStore

open Recorder

/-- This is a store that has observed some payloads in their order. -/
def observeAll (payloads : List Octets) : KeyframeStore := payloads.foldl observe {}

theorem observeAll_eq (payloads : List Octets) : observeAll payloads = ofPayloads payloads := by
  induction payloads using List.reverseRecOn with
  | nil => rfl
  | append_singleton payloads payload inductionHypothesis =>
      rw [observeAll] at inductionHypothesis
      rw [observeAll, List.foldl_append, inductionHypothesis, ← observe_ofPayloads]
      rfl

/-- A unit that is the only one of its type in a payload is the latest one, if no later payload has
a unit of that type. -/
theorem latest?_of_alone {type : UInt8} {payload : Octets} {unit : Nal}
    (alone : (Nal.split payload).filter (fun unit => unit.type = type) = [unit])
    (earlier : List Octets) {later : List Octets}
    (none : ∀ other ∈ later, ∀ unit ∈ Nal.split other, unit.type ≠ type) :
    latest? type ((earlier ++ payload :: later).flatMap Nal.split) = some unit.data := by
  have nothing : (later.flatMap Nal.split).filter (fun unit => unit.type = type) = [] := by
    apply List.filter_eq_nil_iff.2
    intro unit member
    obtain ⟨other, among, inside⟩ := List.mem_flatMap.1 member
    simpa using none other among unit inside
  rw [latest?, List.flatMap_append, List.flatMap_cons, List.filter_append, List.filter_append,
    alone, nothing, List.append_nil, List.getLast?_append_of_ne_nil _ (List.cons_ne_nil _ _)]
  rfl

/-- The last packet with a keyframe has no keyframe behind it. -/
theorem exists_of_last {payloads : List Octets} {packet : Octets}
    (last : (payloads.filter fun payload => (Nal.split payload).any Nal.isKeyframe).getLast? =
      some packet) :
    (Nal.split packet).any Nal.isKeyframe = true ∧
      ∃ earlier later, payloads = earlier ++ packet :: later ∧
        ∀ other ∈ later, (Nal.split other).countP Nal.isKeyframe = 0 := by
  obtain ⟨front, whole⟩ := List.getLast?_eq_some_iff.1 last
  obtain ⟨before, rest, rfl, -, tail⟩ := List.filter_eq_append_iff.1 whole
  obtain ⟨between, later, rfl, -, keyframe, silent⟩ := List.filter_eq_cons_iff.1 tail
  refine ⟨keyframe, before ++ between, later, by simp, ?_⟩
  intro other member
  have none := List.filter_eq_nil_iff.1 silent other member
  rw [List.countP_eq_zero]
  simpa using none

/-- A store that has observed all packets of a stream holds the units of the last packet with a
keyframe, if that packet has one set of each kind. -/
theorem snapshot_packets {chunks : List Octets} {packet : Octets} {sps pps : Nal}
    (last : ((Packetizer.packets chunks).filter fun packet =>
      (Nal.split packet).any Nal.isKeyframe).getLast? = some packet)
    (oneSps : (Nal.split packet).filter Nal.isSps = [sps])
    (onePps : (Nal.split packet).filter Nal.isPps = [pps]) :
    ∃ idr, (Nal.split packet).filter Nal.isKeyframe = [idr] ∧
      (Nal.split packet).filter Nal.isSlice = [idr] ∧
      (observeAll (Packetizer.packets chunks)).snapshot = [sps.data, pps.data, idr.data] := by
  obtain ⟨keyframe, earlier, later, division, silent⟩ := exists_of_last last
  have member : packet ∈ Packetizer.packets chunks := by
    rw [division]
    exact List.mem_append_right _ List.mem_cons_self
  obtain ⟨idr, inside, isKeyframe⟩ := List.any_eq_true.1 keyframe
  have isSlice := Nal.isSlice_of_isKeyframe isKeyframe
  have oneSlice : (Nal.split packet).filter Nal.isSlice = [idr] := by
    have atMost := (Packetizer.counts_of_mem_packets member).1
    have among : idr ∈ (Nal.split packet).filter Nal.isSlice := List.mem_filter.2 ⟨inside, isSlice⟩
    rw [List.countP_eq_length_filter] at atMost
    obtain ⟨only, single⟩ := List.length_eq_one_iff.1
      (Nat.le_antisymm atMost (List.length_pos_of_mem among))
    rw [single] at among ⊢
    rw [List.mem_singleton.1 among]
  have oneIdr : (Nal.split packet).filter Nal.isKeyframe = [idr] := by
    rw [← Nal.filter_isKeyframe_slices, oneSlice, List.filter_cons_of_pos isKeyframe,
      List.filter_nil]
  have noSets : ∀ other ∈ later, ∀ unit ∈ Nal.split other, unit.isParameterSet = false := by
    intro other among unit inside
    have sent : other ∈ Packetizer.packets chunks := by
      rw [division]
      exact List.mem_append_right _ (List.mem_cons_of_mem _ among)
    have none := (Packetizer.counts_of_mem_packets sent).2 (silent other among)
    exact Bool.eq_false_iff.2 (List.countP_eq_zero.1 none unit inside)
  refine ⟨idr, oneIdr, oneSlice, ?_⟩
  rw [observeAll_eq, division, snapshot, ofPayloads, ofUnits]
  rw [latest?_of_alone oneSps, latest?_of_alone onePps, latest?_of_alone oneIdr]
  · rfl
  · intro other among unit inside idr
    have none := List.countP_eq_zero.1 (silent other among) unit inside
    simp [Nal.isKeyframe, idr] at none
  · intro other among unit inside pps
    have noSet := noSets other among unit inside
    simp [Nal.isParameterSet, Nal.isPps, pps] at noSet
  · intro other among unit inside sps
    have noSet := noSets other among unit inside
    simp [Nal.isParameterSet, Nal.isSps, sps] at noSet

end Screencast.Broadcast.KeyframeStore
