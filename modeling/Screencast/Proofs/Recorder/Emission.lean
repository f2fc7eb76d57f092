/-
This file shows that the packets of a stream hold each of its units once, apart from the parameter
sets. A slice ends a group of units and makes a packet of it.
-/

import Screencast.Proofs.Recorder.ParameterSets

namespace Screencast

namespace Nal

/-- A group is closed by its only slice. -/
def Closed (group : List Nal) : Prop :=
  ∃ waiting slice, group = waiting ++ [slice] ∧ slice.isSlice = true ∧
    ∀ unit ∈ waiting, unit.isSlice = false

/-- One more unit waits, or it is a slice and closes its group. -/
def regroup : List (List Nal) × List Nal → Nal → List (List Nal) × List Nal
  | (closed, waiting), unit =>
      if unit.isSlice then (closed ++ [waiting ++ [unit]], []) else (closed, waiting ++ [unit])

/-- These are the closed groups of some units, in their order. -/
def groups (units : List Nal) : List (List Nal) := (units.foldl regroup ([], [])).1

theorem foldl_regroup (units : List Nal) :
    units.foldl regroup ([], []) = (groups units, openGroup units) := by
  have waits : (units.foldl regroup ([], [])).2 = openGroup units := by
    induction units using List.reverseRecOn with
    | nil => rfl
    | append_singleton units unit inductionHypothesis =>
        rw [List.foldl_append, List.foldl_cons, List.foldl_nil, openGroup_snoc,
          ← inductionHypothesis, regroup]
        split <;> rfl
  exact Prod.ext rfl waits

theorem groups_snoc (units : List Nal) (unit : Nal) :
    groups (units ++ [unit]) =
      if unit.isSlice then groups units ++ [openGroup units ++ [unit]] else groups units := by
  rw [groups, List.foldl_append, foldl_regroup, List.foldl_cons, List.foldl_nil, regroup]
  split <;> rfl

/-- Every unit is in a closed group or waits. -/
theorem flatten_groups (units : List Nal) : (groups units).flatten ++ openGroup units = units := by
  induction units using List.reverseRecOn with
  | nil => rfl
  | append_singleton units unit inductionHypothesis =>
      rw [groups_snoc, openGroup_snoc]
      cases ends : unit.isSlice with
      | true =>
          rw [if_pos rfl, if_pos rfl, List.flatten_append, List.flatten_singleton, List.append_nil,
            ← List.append_assoc, inductionHypothesis]
      | false =>
          rw [if_neg Bool.false_ne_true, if_neg Bool.false_ne_true, ← List.append_assoc,
            inductionHypothesis]

theorem closed_of_mem_groups {units group : List Nal} (member : group ∈ groups units) :
    Closed group := by
  induction units using List.reverseRecOn with
  | nil => cases member
  | append_singleton units unit inductionHypothesis =>
      rw [groups_snoc] at member
      cases ends : unit.isSlice with
      | true =>
          rw [if_pos ends] at member
          rcases List.mem_append.1 member with earlier | last
          · exact inductionHypothesis earlier
          · rw [List.mem_singleton.1 last]
            exact ⟨openGroup units, unit, rfl, ends, isSlice_of_mem_openGroup units⟩
      | false =>
          rw [if_neg (by rw [ends]; exact Bool.false_ne_true)] at member
          exact inductionHypothesis member

/-- There is one closed group for each slice. -/
theorem length_groups (units : List Nal) : (groups units).length = units.countP isSlice := by
  induction units using List.reverseRecOn with
  | nil => rfl
  | append_singleton units unit inductionHypothesis =>
      rw [groups_snoc, List.countP_append, ← inductionHypothesis]
      cases ends : unit.isSlice with
      | true => simp [ends]
      | false => simp [ends]

theorem openGroup_append (units : List Nal) {waiting : List Nal}
    (silent : ∀ unit ∈ waiting, unit.isSlice = false) :
    openGroup (units ++ waiting) = openGroup units ++ waiting := by
  induction waiting using List.reverseRecOn with
  | nil => rw [List.append_nil, List.append_nil]
  | append_singleton waiting unit inductionHypothesis =>
      have last := silent unit (by simp)
      rw [← List.append_assoc, openGroup_snoc, last, if_neg Bool.false_ne_true,
        inductionHypothesis fun other member => silent other (by simp [member]), List.append_assoc]

/-- Nothing waits behind closed groups. -/
theorem openGroup_flatten {groups : List (List Nal)} (closed : ∀ group ∈ groups, Closed group) :
    openGroup groups.flatten = [] := by
  induction groups using List.reverseRecOn with
  | nil => rfl
  | append_singleton groups group _ =>
      obtain ⟨waiting, slice, rfl, ends, -⟩ := closed group (by simp)
      rw [List.flatten_append, List.flatten_singleton, ← List.append_assoc, openGroup_snoc,
        if_pos ends]

/-- There is one slice in each closed group. -/
theorem countP_flatten {groups : List (List Nal)} (closed : ∀ group ∈ groups, Closed group) :
    groups.flatten.countP isSlice = groups.length := by
  induction groups with
  | nil => rfl
  | cons group rest inductionHypothesis =>
      obtain ⟨waiting, slice, rfl, ends, silent⟩ := closed group List.mem_cons_self
      have others := inductionHypothesis fun other member =>
        closed other (List.mem_cons_of_mem _ member)
      have none : waiting.countP isSlice = 0 := List.countP_eq_zero.2 fun unit member => by
        rw [silent unit member]
        exact Bool.false_ne_true
      rw [List.flatten_cons, List.countP_append, others, List.countP_append, none, List.length_cons,
        List.countP_singleton, if_pos ends]
      omega

end Nal

namespace Recorder.Packetizer

/-- The units behind the last slice become a packet, unless they all configure the decoder. Then
they become the configuration. -/
theorem closeGroup_waiting (configuration : List Nal) {group : List Nal}
    (waiting : ∀ unit ∈ group, unit.isSlice = false) :
    (closeGroup configuration group).1 =
        (if group.all Nal.isConfiguration then none else some (Nal.concat (Nal.othersOf group))) ∧
      (group.all Nal.isConfiguration = true → group ≠ [] →
        (closeGroup configuration group).2 = group) := by
  cases configures : group.all Nal.isConfiguration with
  | true =>
      rcases group with _ | ⟨first, rest⟩
      · exact ⟨rfl, fun _ filled => absurd rfl filled⟩
      · simp only [closeGroup, configures, List.isEmpty_cons, Bool.false_eq_true, if_false, if_true]
        exact ⟨trivial, fun _ _ => trivial⟩
  | false =>
      obtain ⟨unit, member, silent⟩ := List.all_eq_false.1 configures
      have noSet : unit.isParameterSet = false :=
        Bool.eq_false_iff.2 fun set => silent (Nal.isConfiguration_of_isParameterSet set)
      have filled : group.isEmpty = false :=
        List.isEmpty_eq_false_iff_exists_mem.2 ⟨unit, member⟩
      have others : (Nal.othersOf group).isEmpty = false :=
        List.isEmpty_eq_false_iff_exists_mem.2 ⟨unit, List.mem_filter.2 ⟨member, by rw [noSet]; rfl⟩⟩
      have noKeyframe : (Nal.othersOf group).any Nal.isKeyframe = false :=
        Nal.any_isKeyframe_of_waiting fun unit member => waiting unit (List.mem_filter.1 member).1
      rw [Nal.othersOf] at others noKeyframe
      simp only [closeGroup, filled, configures, others, noKeyframe, Nal.othersOf,
        Bool.false_eq_true, if_false, List.nil_append]
      exact ⟨trivial, fun impossible => impossible.elim⟩

/-- After a slice, the latest parameter sets are the configuration. -/
theorem configuration_addUnits (units : List Nal) {slice : Nal} (ends : slice.isSlice = true) :
    (({} : Packetizer).addUnits (units ++ [slice])).2.configuration = Nal.latestSets units := by
  have sets := (seen_addUnits (units ++ [slice])).1.sets
  rw [Nal.openGroup_snoc, if_pos ends, Nal.latestSets_snoc, Nal.isParameterSet_of_isSlice ends] at sets
  exact sets

/-- A closed group makes a packet of its units other than parameter sets, behind the configuration
if there is a keyframe among them. -/
theorem packetsOf_group {units : List Nal} {before after : List (List Nal)} {group : List Nal}
    (divided : Nal.groups units = before ++ group :: after) :
    let configuration := (({} : Packetizer).addUnits (before.flatten ++ group)).2.configuration
    (packetsOf units)[before.length]? =
        some (Nal.concat ((if group.any Nal.isKeyframe then configuration else []) ++
          Nal.othersOf group)) ∧
      ∀ set ∈ configuration, set.isParameterSet = true := by
  have closed : ∀ other ∈ before ++ group :: after, Nal.Closed other := by
    rw [← divided]
    exact fun other member => Nal.closed_of_mem_groups member
  have earlier : ∀ other ∈ before, Nal.Closed other := fun other member =>
    closed other (List.mem_append_left _ member)
  obtain ⟨waiting, slice, rfl, ends, silent⟩ := closed group (by simp)
  have whole := Nal.flatten_groups units
  rw [divided, List.flatten_append, List.flatten_cons] at whole
  have split : units = (before.flatten ++ waiting) ++
      slice :: (after.flatten ++ Nal.openGroup units) := whole.symm.trans (by simp)
  have index : (before.flatten ++ waiting).countP Nal.isSlice = before.length := by
    rw [List.countP_append, Nal.countP_flatten earlier, List.countP_eq_zero.2 fun unit member => by
      rw [silent unit member]
      exact Bool.false_ne_true]
    rfl
  have waits : Nal.openGroup (before.flatten ++ waiting) = waiting := by
    rw [Nal.openGroup_append _ silent, Nal.openGroup_flatten earlier, List.nil_append]
  have packet := packetsOf_getElem? (before.flatten ++ waiting)
    (after.flatten ++ Nal.openGroup units) ends
  rw [← split, index, packetOf, waits] at packet
  rw [← List.append_assoc, configuration_addUnits _ ends]
  constructor
  · rw [packet, Nal.any_isKeyframe_snoc silent, Nal.othersOf_snoc waiting ends, List.append_assoc]
  · intro set member
    have among := (Nal.latestSets_suffix (before.flatten ++ waiting)).mem member
    exact (List.mem_filter.1 among).2

/-- Each closed group has its packet. Behind them there is at most one more. -/
theorem packetsOf_last (units : List Nal) :
    let last := if (Nal.openGroup units).all Nal.isConfiguration then []
      else [Nal.concat (Nal.othersOf (Nal.openGroup units))]
    (packetsOf units).length = units.countP Nal.isSlice + last.length ∧
      (packetsOf units).drop (Nal.groups units).length = last := by
  intro last
  obtain ⟨seen, length⟩ := seen_addUnits units
  have closed := (closeGroup_waiting (({} : Packetizer).addUnits units).2.configuration
    (Nal.isSlice_of_mem_openGroup units)).1
  have parts : packetsOf units = (({} : Packetizer).addUnits units).1 ++ last := by
    rw [packetsOf]
    change _ ++ (closeGroup _ (({} : Packetizer).addUnits units).2.pending).1.toList = _
    rw [seen.pending, closed]
    dsimp only [last]
    split <;> rfl
  rw [parts, Nal.length_groups, ← length, List.drop_left, List.length_append]
  exact ⟨rfl, rfl⟩

/-- However a stream is divided, there is one packet for each slice, in the order of the slices, and
at most one more for the units behind the last slice. A packet consists of the units of its group
other than parameter sets, behind the parameter sets that are the configuration at that point if it
holds a keyframe. So every unit other than a parameter set is in one packet, in the order of the
stream, unless all units behind the last slice configure the decoder. Then these become the
configuration. -/
theorem packets_units (chunks : List Octets) :
    let units := Nal.split chunks.flatten
    let groups := Nal.groups units
    let trailing := Nal.openGroup units
    let last := if trailing.all Nal.isConfiguration then []
      else [Nal.concat (Nal.othersOf trailing)]
    (groups.flatten ++ trailing = units ∧ (∀ group ∈ groups, Nal.Closed group) ∧
        ∀ unit ∈ trailing, unit.isSlice = false) ∧
      ((packets chunks).length = units.countP Nal.isSlice + last.length ∧
        (packets chunks).drop groups.length = last) ∧
      (∀ before group after, groups = before ++ group :: after →
        let configuration := (({} : Packetizer).addUnits (before.flatten ++ group)).2.configuration
        (packets chunks)[before.length]? =
            some (Nal.concat ((if group.any Nal.isKeyframe then configuration else []) ++
              Nal.othersOf group)) ∧
          ∀ set ∈ configuration, set.isParameterSet = true) ∧
      groups.flatMap Nal.othersOf ++ Nal.othersOf trailing = Nal.othersOf units ∧
      (trailing ≠ [] →
        let ended := (({} : Packetizer).feedAll chunks).2.finish
        ended.1.toList = last ∧
          (trailing.all Nal.isConfiguration = true → ended.2.configuration = trailing)) := by
  intro units groups trailing last
  have whole : groups.flatten ++ trailing = units := Nal.flatten_groups units
  have silent : ∀ unit ∈ trailing, unit.isSlice = false := Nal.isSlice_of_mem_openGroup units
  rw [packets_eq_packetsOf]
  refine ⟨⟨whole, fun group member => Nal.closed_of_mem_groups member, silent⟩,
    packetsOf_last units, fun before group after divided => packetsOf_group divided, ?_, ?_⟩
  · have grouped : Nal.othersOf groups.flatten = groups.flatMap Nal.othersOf := List.filter_flatten
    rw [← whole, ← grouped]
    exact (List.filter_append groups.flatten trailing).symm
  · intro filled ended
    have pending : (({} : Packetizer).addUnits units).2.pending = trailing :=
      (seen_addUnits units).1.pending
    obtain ⟨packet, becomes⟩ :=
      closeGroup_waiting (({} : Packetizer).addUnits units).2.configuration silent
    obtain ⟨-, configuration, emitted⟩ := finish_feedAll chunks
    rw [show Nal.split chunks.flatten = units from rfl, pending] at configuration emitted
    constructor
    · rw [emitted filled, packet]
      dsimp only [last]
      split <;> rfl
    · intro configures
      rw [configuration]
      exact becomes configures filled

/-- A filler behind the last slice makes one more packet, which takes the other unit there along. -/
theorem packets_units_filler :
    let chunks : List Octets := [[0, 0, 1, 0x67, 1, 0, 0, 1, 0x68, 2, 0, 0], [],
      [1, 0x65, 3, 0, 0, 1, 6, 4, 0, 0, 1, 12, 5]]
    let group : List Nal := [⟨.short, 0x67, [1]⟩, ⟨.short, 0x68, [2]⟩, ⟨.short, 0x65, [3]⟩]
    Nal.groups (Nal.split chunks.flatten) = [] ++ group :: [] ∧
      (packets chunks)[0]? = some [0, 0, 1, 0x67, 1, 0, 0, 1, 0x68, 2, 0, 0, 1, 0x65, 3] ∧
      Nal.openGroup (Nal.split chunks.flatten) ≠ [] ∧
      (({} : Packetizer).feedAll chunks).2.finish.1.toList = [[0, 0, 1, 6, 4, 0, 0, 1, 12, 5]] := by
  intro chunks group
  have divided : Nal.groups (Nal.split chunks.flatten) = [] ++ group :: [] := by decide +kernel
  have filled : Nal.openGroup (Nal.split chunks.flatten) ≠ [] := by decide +kernel
  obtain ⟨-, -, each, -, ending⟩ := packets_units chunks
  exact ⟨divided, (each [] group [] divided).1.trans (by decide +kernel), filled,
    (ending filled).1.trans (by decide +kernel)⟩

end Recorder.Packetizer

end Screencast
