/-
This file follows a tracker over many calls. It reports a configuration exactly when a set completes
a valid pair that is not in use. So the configuration in use is always that of the latest valid
pair.
-/

import Mathlib.Data.List.Infix
import Screencast.Proofs.Decoder.Viewing

namespace Screencast.Decoder

/-- This is the latest unit of a kind, without its start code. -/
def latest? (kind : Nal → Bool) (units : List Nal) : Option Octets :=
  (units.filter kind).getLast?.map Nal.payload

theorem latest?_snoc (kind : Nal → Bool) (units : List Nal) (unit : Nal) :
    latest? kind (units ++ [unit]) =
      if kind unit then some unit.payload else latest? kind units := by
  rw [latest?, List.filter_append]
  cases chosen : kind unit with
  | true =>
      rw [List.filter_cons_of_pos chosen, List.filter_nil, List.getLast?_concat]
      rfl
  | false =>
      rw [List.filter_cons_of_neg (by simp [chosen]), List.filter_nil, List.append_nil]
      rfl

/-- This is the latest set of each kind, once there are both. -/
def latestPair? (units : List Nal) : Option (Octets × Octets) := do
  return (← latest? Nal.isSps units, ← latest? Nal.isPps units)

theorem latestPair?_eq_some_iff {units : List Nal} {pair : Octets × Octets} :
    latestPair? units = some pair ↔
      latest? Nal.isSps units = some pair.1 ∧ latest? Nal.isPps units = some pair.2 := by
  obtain ⟨sps, pps⟩ := pair
  rw [latestPair?]
  cases latest? Nal.isSps units <;> cases latest? Nal.isPps units <;> simp

namespace Configuration

/-- A configuration was made from these sets. -/
def pair (configuration : Configuration) : Octets × Octets :=
  (configuration.record.sps, configuration.record.pps)

/-- A pair is valid when its first set has a level and a size, unless the size is known, and when
its second set has a header. -/
def Valid (geometry : Option (UInt32 × UInt32)) (pair : Octets × Octets) : Prop :=
  (∃ width height, HasSize pair.1 geometry width height) ∧ 4 ≤ pair.1.length ∧ pair.2 ≠ []

/-- The pair gives everything in a configuration but the known size. -/
structure Describes (geometry : Option (UInt32 × UInt32)) (pair : Octets × Octets)
    (configuration : Configuration) : Prop where
  sets : configuration.pair = pair
  record : (pair.1.drop 1).take 3 = [configuration.record.profile,
    configuration.record.compatibility, configuration.record.level]
  codec : configuration.codec =
    "avc1." ++ String.ofList (((pair.1.drop 1).take 3).flatMap Text.hexPair)
  size : HasSize pair.1 geometry configuration.width configuration.height

theorem describes_of_ofParameterSets {sps pps : Octets} {geometry : Option (UInt32 × UInt32)}
    {configuration : Configuration} (made : ofParameterSets sps pps geometry = .ok configuration) :
    configuration.Describes geometry (sps, pps) := by
  obtain ⟨size, recorded⟩ := ofParameterSets_eq_ok_iff.1 made
  obtain ⟨⟨header, rest, spelled⟩, -, sameSps, samePps⟩ :=
    Avc.Record.ofParameterSets_eq_ok_iff.1 recorded
  have record : (sps.drop 1).take 3 = [configuration.record.profile,
      configuration.record.compatibility, configuration.record.level] := by
    rw [spelled]
    rfl
  exact ⟨Prod.ext sameSps samePps, record, by rw [record]; rfl, size⟩

/-- This is the configuration that the latest pair makes, unless it is malformed. -/
def ofUnits? (geometry : Option (UInt32 × UInt32)) (units : List Nal) : Option Configuration := do
  let pair ← latestPair? units
  (ofParameterSets pair.1 pair.2 geometry).toOption

/-- Of all the pairs that there were so far, the latest valid one makes this configuration. -/
def latestValid? (geometry : Option (UInt32 × UInt32)) (units : List Nal) :
    Option Configuration :=
  (units.inits.filterMap (ofUnits? geometry)).getLast?

theorem latestValid?_snoc (geometry : Option (UInt32 × UInt32)) (units : List Nal) (unit : Nal) :
    latestValid? geometry (units ++ [unit]) =
      (ofUnits? geometry (units ++ [unit])).or (latestValid? geometry units) := by
  rw [latestValid?, List.inits_append, List.filterMap_append, List.getLast?_append]
  simp only [List.inits, List.map_cons, List.map_nil, List.tail_cons, List.filterMap_cons,
    List.filterMap_nil]
  cases ofUnits? geometry (units ++ [unit]) <;> rfl

/-- A pair that is valid now is the latest valid one. -/
theorem latestValid?_of_ofUnits? {geometry : Option (UInt32 × UInt32)} {units : List Nal}
    {configuration : Configuration} (made : ofUnits? geometry units = some configuration) :
    latestValid? geometry units = some configuration := by
  induction units using List.reverseRecOn with
  | nil => cases made
  | append_singleton units unit _ =>
      rw [latestValid?_snoc, made]
      rfl

theorem ofUnits?_eq_some_iff {geometry : Option (UInt32 × UInt32)} {units : List Nal}
    {configuration : Configuration} :
    ofUnits? geometry units = some configuration ↔
      ∃ pair, latestPair? units = some pair ∧
        ofParameterSets pair.1 pair.2 geometry = .ok configuration := by
  rw [ofUnits?, Option.bind_eq_bind, Option.bind_eq_some_iff]
  refine exists_congr fun pair => and_congr_right fun _ => ?_
  cases ofParameterSets pair.1 pair.2 geometry <;> simp [Except.toOption]

/-- The latest valid configuration is made of its own sets. -/
theorem made_of_latestValid? {geometry : Option (UInt32 × UInt32)} {units : List Nal}
    {configuration : Configuration} (valid : latestValid? geometry units = some configuration) :
    ofParameterSets configuration.record.sps configuration.record.pps geometry =
      .ok configuration := by
  have member := List.mem_of_getLast? valid
  obtain ⟨seen, -, made⟩ := List.mem_filterMap.1 member
  obtain ⟨pair, -, made⟩ := ofUnits?_eq_some_iff.1 made
  obtain ⟨sameSps, samePps⟩ := sets_of_ofParameterSets made
  rw [sameSps, samePps]
  exact made

end Configuration

namespace Tracker

/-- These calls change a tracker. -/
inductive Call
  | observe (unit : Nal)
  | reset

def call (tracker : Tracker) : Call → Tracker
  | .observe unit => (tracker.observe unit).2
  | .reset => tracker.reset

def run (tracker : Tracker) (calls : List Call) : Tracker := calls.foldl call tracker

/-- A reset forgets the units before it. -/
def Call.observed (units : List Nal) : Call → List Nal
  | .observe unit => units ++ [unit]
  | .reset => []

/-- These units were observed since the last reset. -/
def observed (calls : List Call) : List Nal := calls.foldl Call.observed []

/-- The tracker holds the latest sets of these units. -/
structure Holds (geometry : Option (UInt32 × UInt32)) (units : List Nal) (tracker : Tracker) :
    Prop where
  known : tracker.geometry = geometry
  sps : tracker.sps = latest? Nal.isSps units
  pps : tracker.pps = latest? Nal.isPps units

/-- The tracker uses the latest valid pair of these units, too. -/
structure UpToDate (geometry : Option (UInt32 × UInt32)) (units : List Nal) (tracker : Tracker) :
    Prop extends tracker.Holds geometry units where
  current : tracker.current = Configuration.latestValid? geometry units

variable {geometry : Option (UInt32 × UInt32)} {units : List Nal} {tracker : Tracker} {unit : Nal}

namespace Holds

theorem latestPair?_eq_some_iff (holds : tracker.Holds geometry units) {pair : Octets × Octets} :
    latestPair? units = some pair ↔ tracker.sps = some pair.1 ∧ tracker.pps = some pair.2 := by
  rw [Decoder.latestPair?_eq_some_iff, holds.sps, holds.pps]

/-- The tracked pair is the latest one. -/
theorem makes_iff (holds : tracker.Holds geometry units) {configuration : Configuration} :
    tracker.Makes configuration ↔
      Configuration.ofUnits? geometry units = some configuration := by
  rw [Configuration.ofUnits?_eq_some_iff, Prod.exists]
  simp only [Makes, holds.latestPair?_eq_some_iff, holds.known, and_assoc]

/-- The latest pair is in use when the configuration in use has its sets. -/
theorem uses_iff (holds : tracker.Holds geometry units) {pair : Octets × Octets}
    (latest : latestPair? units = some pair) :
    (∃ current, tracker.Uses current) ↔ tracker.current.map Configuration.pair = some pair := by
  obtain ⟨sps, pps⟩ := holds.latestPair?_eq_some_iff.1 latest
  rw [Option.map_eq_some_iff]
  refine exists_congr fun current => and_congr_right fun _ => ?_
  rw [sps, pps, Configuration.pair, Prod.ext_iff, Option.some.injEq, Option.some.injEq,
    eq_comm, @eq_comm _ pair.2]

/-- The tracked pair is valid when it makes a configuration. -/
theorem exists_makes_iff (holds : tracker.Holds geometry units) :
    (∃ configuration, tracker.Makes configuration) ↔
      ∃ pair, latestPair? units = some pair ∧ Configuration.Valid geometry pair := by
  simp only [holds.makes_iff, Configuration.ofUnits?_eq_some_iff]
  rw [exists_comm]
  refine exists_congr fun pair => ?_
  rw [exists_and_left]
  exact and_congr_right fun _ => Configuration.exists_ofParameterSets_iff

/-- A pair that is valid and not in use is reported. -/
theorem exists_update_iff (holds : tracker.Holds geometry units) :
    (∃ configuration, tracker.update.1 = .ok (some configuration)) ↔
      ∃ pair, latestPair? units = some pair ∧
        tracker.current.map Configuration.pair ≠ some pair ∧ Configuration.Valid geometry pair := by
  have updated := tracker.update_updated
  generalize tracker.update = outcome at updated ⊢
  cases updated with
  | @made configuration makes unused =>
      obtain ⟨pair, latest, valid⟩ := holds.exists_makes_iff.1 ⟨configuration, makes⟩
      rw [holds.uses_iff latest] at unused
      exact ⟨fun _ => ⟨pair, latest, unused, valid⟩, fun _ => ⟨configuration, rfl⟩⟩
  | kept silent used =>
      constructor
      · rintro ⟨configuration, reported⟩
        exact absurd reported (silent configuration)
      · rintro ⟨pair, latest, unused, valid⟩
        obtain ⟨configuration, makes⟩ := holds.exists_makes_iff.2 ⟨pair, latest, valid⟩
        exact absurd ((holds.uses_iff latest).1 (used configuration makes)) unused

/-- What is reported is in use then, and it is made of the latest pair. -/
theorem of_update (holds : tracker.Holds geometry units) {configuration : Configuration}
    (reported : tracker.update.1 = .ok (some configuration)) :
    tracker.update.2.current = some configuration ∧
      ∃ pair, latestPair? units = some pair ∧ configuration.Describes geometry pair := by
  have updated := tracker.update_updated
  generalize tracker.update = outcome at updated reported ⊢
  cases updated with
  | made makes unused =>
      cases reported
      obtain ⟨pair, latest, made⟩ :=
        Configuration.ofUnits?_eq_some_iff.1 (holds.makes_iff.1 makes)
      exact ⟨rfl, pair, latest, Configuration.describes_of_ofParameterSets made⟩
  | kept silent used => exact absurd reported (silent configuration)

theorem record (holds : tracker.Holds geometry units) (unit : Nal) :
    (tracker.record unit).Holds geometry (units ++ [unit]) := by
  rw [Tracker.record]
  cases isSps : unit.isSps with
  | true =>
      have notPps := Nal.isPps_of_isSps isSps
      exact ⟨holds.known, by simp [latest?_snoc, isSps],
        by simp [latest?_snoc, notPps, holds.pps]⟩
  | false =>
      cases isPps : unit.isPps with
      | true =>
          exact ⟨holds.known, by simp [latest?_snoc, isSps, holds.sps],
            by simp [latest?_snoc, isPps]⟩
      | false =>
          exact ⟨holds.known, by simp [latest?_snoc, isSps, holds.sps],
            by simp [latest?_snoc, isPps, holds.pps]⟩

end Holds

theorem current_update
    (silent : ∀ configuration, tracker.update.1 ≠ .ok (some configuration)) :
    tracker.update.2.current = tracker.current := by
  have updated := tracker.update_updated
  generalize tracker.update = outcome at updated silent ⊢
  cases updated with
  | made makes unused => exact absurd rfl (silent _)
  | kept silent used => rfl

theorem observe_other (tracker : Tracker) {unit : Nal} (other : unit.isParameterSet = false) :
    tracker.observe unit = (.ok none, tracker) := by
  rw [Nal.isParameterSet, Bool.or_eq_false_iff] at other
  simp [observe, other]

namespace UpToDate

/-- A unit that is no set changes nothing. -/
theorem other (upToDate : tracker.UpToDate geometry units)
    (other : unit.isParameterSet = false) : tracker.UpToDate geometry (units ++ [unit]) := by
  have holds := upToDate.record unit
  rw [record_of_other other] at holds
  refine ⟨holds, ?_⟩
  have same : Configuration.ofUnits? geometry (units ++ [unit]) =
      Configuration.ofUnits? geometry units := by
    apply Option.ext
    intro configuration
    rw [← holds.makes_iff, ← upToDate.makes_iff]
  rw [upToDate.current, Configuration.latestValid?_snoc, same]
  cases made : Configuration.ofUnits? geometry units with
  | none => rfl
  | some configuration => exact Configuration.latestValid?_of_ofUnits? made

/-- A new pair becomes the latest valid one, unless it is malformed or in use already. -/
theorem observe (upToDate : tracker.UpToDate geometry units) (unit : Nal) :
    (tracker.observe unit).2.UpToDate geometry (units ++ [unit]) := by
  cases set : unit.isParameterSet with
  | false =>
      rw [observe_other tracker set]
      exact upToDate.other set
  | true =>
      rw [observe_set tracker set]
      have holds := upToDate.record unit
      have updated := (tracker.record unit).update_updated
      generalize (tracker.record unit).update = outcome at updated
      cases updated with
      | made makes unused =>
          refine ⟨⟨holds.known, holds.sps, holds.pps⟩, ?_⟩
          exact (Configuration.latestValid?_of_ofUnits? (holds.makes_iff.1 makes)).symm
      | kept silent used =>
          refine ⟨holds, ?_⟩
          rw [record_current, upToDate.current, Configuration.latestValid?_snoc]
          cases made : Configuration.ofUnits? geometry (units ++ [unit]) with
          | none => rfl
          | some configuration =>
              -- The pair is in use, and a configuration in use is made of its own sets.
              obtain ⟨current, uses⟩ := used configuration (holds.makes_iff.2 made)
              have valid : Configuration.latestValid? geometry units = some current := by
                rw [← upToDate.current, ← uses.1, record_current]
              have own := Configuration.made_of_latestValid? valid
              obtain ⟨pair, latest, made⟩ := Configuration.ofUnits?_eq_some_iff.1 made
              have same := (holds.uses_iff latest).1 ⟨current, uses⟩
              rw [uses.1, Option.map_some, Option.some.injEq] at same
              rw [← same] at made
              rw [valid]
              exact congrArg some (Except.ok.inj (own.symm.trans made))

theorem reset (upToDate : tracker.UpToDate geometry units) :
    tracker.reset.UpToDate geometry [] :=
  ⟨⟨upToDate.known, rfl, rfl⟩, rfl⟩

/-- Every call keeps the tracker up to date. -/
theorem call (upToDate : tracker.UpToDate geometry units) (call : Call) :
    (tracker.call call).UpToDate geometry (call.observed units) := by
  cases call with
  | observe unit => exact upToDate.observe unit
  | reset => exact upToDate.reset

theorem run (upToDate : tracker.UpToDate geometry units) (calls : List Call) :
    (tracker.run calls).UpToDate geometry (calls.foldl Call.observed units) := by
  induction calls generalizing tracker units with
  | nil => exact upToDate
  | cons call rest inductionHypothesis => exact inductionHypothesis (upToDate.call call)

end UpToDate

/-- A set that completes a valid pair, which is not in use, is answered with its configuration, and
this is in use then. Everything else leaves the configuration in use, which is always that of the
latest valid pair since the last reset. -/
theorem observe_reports_iff (geometry : Option (UInt32 × UInt32)) (calls : List Call)
    (unit : Nal) :
    let tracker := ({ geometry } : Tracker).run calls
    let units := observed calls
    ((∃ configuration, (tracker.observe unit).1 = .ok (some configuration)) ↔
      unit.isParameterSet = true ∧ ∃ pair, latestPair? (units ++ [unit]) = some pair ∧
        tracker.current.map Configuration.pair ≠ some pair ∧
        Configuration.Valid geometry pair) ∧
    (∀ configuration, (tracker.observe unit).1 = .ok (some configuration) →
      (tracker.observe unit).2.current = some configuration ∧
        ∃ pair, latestPair? (units ++ [unit]) = some pair ∧
          configuration.Describes geometry pair) ∧
    ((∀ configuration, (tracker.observe unit).1 ≠ .ok (some configuration)) →
      (tracker.observe unit).2.current = tracker.current) ∧
    tracker.current = Configuration.latestValid? geometry units := by
  intro tracker units
  have fresh : ({ geometry } : Tracker).UpToDate geometry [] := ⟨⟨rfl, rfl, rfl⟩, rfl⟩
  have upToDate : tracker.UpToDate geometry units := fresh.run calls
  cases set : unit.isParameterSet with
  | false =>
      rw [observe_other tracker set]
      exact ⟨by simp, by simp, fun _ => rfl, upToDate.current⟩
  | true =>
      have holds := upToDate.record unit
      have reports := holds.exists_update_iff
      rw [record_current] at reports
      rw [observe_set tracker set, reports]
      refine ⟨⟨fun found => ⟨rfl, found⟩, fun found => found.2⟩, fun _ => holds.of_update, ?_,
        upToDate.current⟩
      intro silent
      rw [current_update silent, record_current]

end Tracker

end Screencast.Decoder
