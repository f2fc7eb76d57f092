/-
This file shows that the packets of a stream depend on its units only. There is one packet for each
slice, however the stream is divided into chunks.
-/

import Mathlib.Data.List.DropRight
import Screencast.Proofs.Nal.Chunks
import Screencast.Proofs.Nal.Kinds
import Screencast.Recorder.Packetizer

namespace Screencast

namespace Nal

/-- The parameter sets of some units, in their order. -/
def setsOf (units : List Nal) : List Nal := units.filter isParameterSet

/-- The other units, in their order. -/
def othersOf (units : List Nal) : List Nal := units.filter fun unit => !unit.isParameterSet

/-- These units wait for the slice that ends their group. -/
def openGroup (units : List Nal) : List Nal := units.rtakeWhile fun unit => !unit.isSlice

/-- These are the parameter sets that came last, with no slice between them. -/
def latestSets (units : List Nal) : List Nal :=
  setsOf (openGroup (units.rdropWhile fun unit => !unit.isParameterSet))

theorem openGroup_snoc (units : List Nal) (unit : Nal) :
    openGroup (units ++ [unit]) = if unit.isSlice then [] else openGroup units ++ [unit] := by
  rw [openGroup, List.rtakeWhile_concat]
  cases unit.isSlice <;> rfl

theorem latestSets_snoc (units : List Nal) (unit : Nal) :
    latestSets (units ++ [unit]) =
      if unit.isParameterSet then setsOf (openGroup units) ++ [unit] else latestSets units := by
  rw [latestSets, List.rdropWhile_concat]
  cases set : unit.isParameterSet with
  | false => rfl
  | true =>
      have inside := isSlice_of_isParameterSet set
      simp [openGroup_snoc, inside, setsOf, set]

/-- Units that wait hold no keyframe. -/
theorem any_isKeyframe_of_waiting {group : List Nal}
    (waiting : ∀ unit ∈ group, unit.isSlice = false) : group.any isKeyframe = false := by
  rw [List.any_eq_false]
  intro unit member keyframe
  have silent := waiting unit member
  exact Bool.false_ne_true (silent.symm.trans (isSlice_of_isKeyframe keyframe))

theorem any_isKeyframe_snoc {group : List Nal} (waiting : ∀ unit ∈ group, unit.isSlice = false)
    (slice : Nal) : (group ++ [slice]).any isKeyframe = slice.isKeyframe := by
  rw [List.any_append, any_isKeyframe_of_waiting waiting]
  simp

theorem othersOf_snoc (group : List Nal) {slice : Nal} (ends : slice.isSlice = true) :
    othersOf (group ++ [slice]) = othersOf group ++ [slice] := by
  simp [othersOf, isParameterSet_of_isSlice ends]

theorem isSlice_of_mem_openGroup (units : List Nal) :
    ∀ unit ∈ openGroup units, unit.isSlice = false := by
  intro unit member
  simpa using List.mem_rtakeWhile_imp member

end Nal

namespace Recorder.Packetizer

/-- The parameter sets of a group come into force, and a group without any changes nothing. -/
def inForce (configuration group : List Nal) : List Nal :=
  if (Nal.setsOf group).isEmpty then configuration else Nal.setsOf group

/-- A slice turns its group into a packet. -/
theorem closeGroup_slice (configuration : List Nal) {group : List Nal} {slice : Nal}
    (waiting : ∀ unit ∈ group, unit.isSlice = false) (ends : slice.isSlice = true) :
    closeGroup configuration (group ++ [slice]) =
      (some (Nal.concat ((if slice.isKeyframe then inForce configuration group else []) ++
        Nal.othersOf group ++ [slice])), inForce configuration group) := by
  have picture := Nal.isConfiguration_of_isSlice ends
  have noSet := Nal.isParameterSet_of_isSlice ends
  have keyframes : (Nal.othersOf group ++ [slice]).any Nal.isKeyframe = slice.isKeyframe :=
    Nal.any_isKeyframe_snoc (fun unit member => waiting unit (List.mem_filter.1 member).1) slice
  have sets : (group ++ [slice]).filter Nal.isParameterSet = Nal.setsOf group := by
    simp [Nal.setsOf, noSet]
  have others : (group ++ [slice]).filter (fun unit => !unit.isParameterSet) =
      Nal.othersOf group ++ [slice] := Nal.othersOf_snoc group ends
  have filled (units : List Nal) : (units ++ [slice]).isEmpty = false := by simp
  simp only [closeGroup, sets, others, keyframes, filled, inForce, List.all_append, List.all_cons,
    picture, Bool.false_and, Bool.and_false, Bool.false_eq_true, if_false, List.append_assoc]

@[simp] theorem closeGroup_nil (configuration : List Nal) :
    closeGroup configuration [] = (none, configuration) := rfl

theorem addUnits_append (packetizer : Packetizer) (first second : List Nal) :
    packetizer.addUnits (first ++ second) =
      let (packets, middle) := packetizer.addUnits first
      let (more, last) := middle.addUnits second
      (packets ++ more, last) := by
  induction first generalizing packetizer with
  | nil => rfl
  | cons unit rest inductionHypothesis =>
      simp only [List.cons_append, addUnits, inductionHypothesis, List.append_assoc]

/-- What the demuxer still holds does not matter to the units that it gave. -/
theorem addUnits_demuxer (packetizer : Packetizer) (demuxer : Demuxer) (units : List Nal) :
    { packetizer with demuxer }.addUnits units =
      ((packetizer.addUnits units).1, { (packetizer.addUnits units).2 with demuxer }) := by
  induction units generalizing packetizer with
  | nil => rfl
  | cons unit rest inductionHypothesis =>
      have once : { packetizer with demuxer }.addUnit unit =
          ((packetizer.addUnit unit).1, { (packetizer.addUnit unit).2 with demuxer }) := by
        unfold addUnit
        split <;> rfl
      simp only [addUnits, once, inductionHypothesis]

/-- Chunks are fed like the units that the demuxer makes of them. -/
theorem feedAll_eq_addUnits (packetizer : Packetizer) (chunks : List Octets) :
    packetizer.feedAll chunks =
      let (units, demuxer) := packetizer.demuxer.feedAll chunks
      { packetizer with demuxer }.addUnits units := by
  induction chunks generalizing packetizer with
  | nil => rfl
  | cons chunk rest inductionHypothesis =>
      have own (units : List Nal) (demuxer : Demuxer) :
          ({ packetizer with demuxer }.addUnits units).2.demuxer = demuxer := by
        rw [addUnits_demuxer]
      simp only [feedAll, feed, Demuxer.feedAll, inductionHypothesis, own, addUnits_append]
      simp only [addUnits_demuxer]

/-- The end of a stream closes the group that waits, however the stream was divided into chunks. If
the stream ends with a slice, it is that slice which closes the last group. -/
theorem finish_feedAll (chunks : List Octets) :
    let fed := ({} : Packetizer).feedAll chunks
    let added := ({} : Packetizer).addUnits (Nal.split chunks.flatten)
    let closed := closeGroup added.2.configuration added.2.pending
    fed.1 ++ fed.2.finish.1.toList = added.1 ++ closed.1.toList ∧
      fed.2.finish.2.configuration = closed.2 ∧
      (added.2.pending ≠ [] → fed.2.finish.1 = closed.1) := by
  have demuxed := Demuxer.feedAll_eq_feed Demuxer.Sound.fresh chunks
  rw [Nal.split, feedAll_eq_addUnits, demuxed, addUnits_append]
  generalize ({} : Demuxer).feed chunks.flatten = fed
  obtain ⟨units, demuxer⟩ := fed
  have resumed := addUnits_demuxer {} demuxer units
  simp only [resumed, finish, processGroup]
  generalize ({} : Packetizer).addUnits units = added
  obtain ⟨emitted, packetizer⟩ := added
  cases demuxer.flush.1 with
  | none => simp [addUnits]
  | some unit =>
      cases ends : unit.isSlice with
      | true => simp [addUnits, addUnit, ends, processGroup]
      | false => simp [addUnits, addUnit, ends]

/-- These are the packets of a stream that was divided into chunks. -/
def packets (chunks : List Octets) : List Octets :=
  let (packets, packetizer) := ({} : Packetizer).feedAll chunks
  packets ++ packetizer.finish.1.toList

/-- These are the packets of a list of units, the last one without a slice. -/
def packetsOf (units : List Nal) : List Octets :=
  let (packets, packetizer) := ({} : Packetizer).addUnits units
  packets ++ (closeGroup packetizer.configuration packetizer.pending).1.toList

/-- The division of a stream into chunks does not matter. -/
theorem packets_eq_packetsOf (chunks : List Octets) :
    packets chunks = packetsOf (Nal.split chunks.flatten) :=
  (finish_feedAll chunks).1

/-- The packet of a slice begins with the latest parameter sets if it is a keyframe. The other
units of its group follow in their order. -/
def packetOf (before : List Nal) (slice : Nal) : Octets :=
  Nal.concat ((if slice.isKeyframe then Nal.latestSets before else []) ++
    Nal.othersOf (Nal.openGroup before) ++ [slice])

/-- The packetizer has seen some units. -/
structure Seen (units : List Nal) (packetizer : Packetizer) : Prop where
  pending : packetizer.pending = Nal.openGroup units
  sets : inForce packetizer.configuration (Nal.openGroup units) = Nal.latestSets units

theorem Seen.nil : Seen [] {} := ⟨rfl, rfl⟩

/-- One more unit waits in its group or turns it into a packet. -/
theorem Seen.addUnit {units : List Nal} {packetizer : Packetizer} (seen : Seen units packetizer)
    (unit : Nal) :
    Seen (units ++ [unit]) (packetizer.addUnit unit).2 ∧
      (packetizer.addUnit unit).1 =
        if unit.isSlice then some (packetOf units unit) else none := by
  obtain ⟨pending, sets⟩ := seen
  cases ends : unit.isSlice with
  | true =>
      have noSet := Nal.isParameterSet_of_isSlice ends
      have closed := closeGroup_slice packetizer.configuration
        (Nal.isSlice_of_mem_openGroup units) ends
      simp only [Packetizer.addUnit, ends, if_true, processGroup, pending, closed, sets]
      refine ⟨⟨?_, ?_⟩, rfl⟩
      · rw [Nal.openGroup_snoc, if_pos ends]
      · rw [Nal.openGroup_snoc, if_pos ends, Nal.latestSets_snoc, noSet]
        rfl
  | false =>
      simp only [Packetizer.addUnit, ends, Bool.false_eq_true, if_false]
      refine ⟨⟨?_, ?_⟩, trivial⟩
      · rw [Nal.openGroup_snoc, ends, pending]
        rfl
      · rw [Nal.openGroup_snoc, ends, Nal.latestSets_snoc, ← sets]
        cases set : unit.isParameterSet <;> simp [inForce, Nal.setsOf, set]

/-- Every list of units is seen, and each slice in it has given its packet. -/
theorem seen_addUnits (units : List Nal) :
    Seen units (({} : Packetizer).addUnits units).2 ∧
      (({} : Packetizer).addUnits units).1.length = units.countP Nal.isSlice := by
  induction units using List.reverseRecOn with
  | nil => exact ⟨Seen.nil, rfl⟩
  | append_singleton units unit inductionHypothesis =>
      obtain ⟨seen, length⟩ := inductionHypothesis
      obtain ⟨next, packet⟩ := seen.addUnit unit
      rw [addUnits_append]
      refine ⟨next, ?_⟩
      simp only [addUnits, packet, List.length_append, length, List.countP_append]
      cases ends : unit.isSlice <;> simp [ends]

/-- The packets stand in the order of their slices. -/
theorem packetsOf_getElem? (before after : List Nal) {slice : Nal} (ends : slice.isSlice = true) :
    (packetsOf (before ++ slice :: after))[before.countP Nal.isSlice]? =
      some (packetOf before slice) := by
  obtain ⟨seen, length⟩ := seen_addUnits before
  obtain ⟨-, packet⟩ := seen.addUnit slice
  rw [packetsOf, addUnits_append]
  simp only [addUnits, packet, ends, if_true, Option.toList_some, List.append_assoc]
  rw [List.getElem?_append_right (Nat.le_of_eq length), length, Nat.sub_self]
  rfl

end Recorder.Packetizer

end Screencast
