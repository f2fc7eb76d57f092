/-
This file shows what configures a decoder anew. A parameter set that changes the tracked pair leads
to at most one configuration, which is made of the latest sets of the stream up to this one. The
last configuration of a payload is made of the latest sets at its end.
-/

import Screencast.Proofs.Decoder.Viewing
import Screencast.Proofs.Nal.Kinds

namespace Screencast

namespace Decoder

/-- A decoder that gets such an input has the configuration. -/
inductive DecoderInput.Carries (configuration : Configuration) : DecoderInput → Prop
  | configure :
      Carries configuration (.configure configuration.codec configuration.width
        configuration.height configuration.description)
  | initSegment {writer : Mp4.Writer} (record : writer.record = configuration.record)
      (width : writer.width = configuration.width)
      (height : writer.height = configuration.height) :
      Carries configuration (.initSegment writer.initSegment)

/-- The latest sets of these units make a configuration that the input carries. -/
def BuiltFrom (geometry : Option (UInt32 × UInt32)) (units : List Nal) (input : DecoderInput) :
    Prop :=
  ∃ sps pps configuration,
    (units.filter Nal.isSps).getLast? = some sps ∧ (units.filter Nal.isPps).getLast? = some pps ∧
      Configuration.ofParameterSets sps.payload pps.payload geometry = .ok configuration ∧
      input.Carries configuration

theorem Strategy.configure_carries {strategy : Strategy}
    (needs : strategy.kind.needsConfiguration = true) (configuration : Configuration) :
    ∃ input, (strategy.configure configuration).1 = [input] ∧
      input.Carries configuration := by
  cases strategy with
  | hardware state => exact ⟨_, rfl, .configure⟩
  | buffered state => exact ⟨_, rfl, .initSegment rfl rfl rfl⟩
  | raw => cases needs

namespace Tracker

variable {tracker : Tracker} {unit : Nal}

/-- What is tracked of a kind is the latest unit of this kind. -/
def Tracks (kind : Nal → Bool) (units : List Nal) (tracked : Option Octets) : Prop :=
  ∀ payload, tracked = some payload →
    ∃ unit, (units.filter kind).getLast? = some unit ∧ unit.payload = payload

theorem tracks_snoc {kind : Nal → Bool} (chosen : kind unit = true) (units : List Nal) :
    Tracks kind (units ++ [unit]) (some unit.payload) := by
  intro payload same
  cases same
  exact ⟨unit, by simp [List.filter_append, chosen], rfl⟩

theorem Tracks.snoc {kind : Nal → Bool} {units : List Nal} {tracked : Option Octets}
    (tracks : Tracks kind units tracked) (other : kind unit = false) :
    Tracks kind (units ++ [unit]) tracked := by
  rw [Tracks, List.filter_append, List.filter_singleton, other]
  simpa [Tracks] using tracks

/-- The tracked sets are the latest ones of these units. -/
structure Follows (tracker : Tracker) (units : List Nal) : Prop where
  sps : Tracks Nal.isSps units tracker.sps
  pps : Tracks Nal.isPps units tracker.pps

theorem Follows.record {units : List Nal} (follows : tracker.Follows units) (unit : Nal) :
    (tracker.record unit).Follows (units ++ [unit]) := by
  rw [Tracker.record]
  split
  case isTrue isSps =>
    exact ⟨tracks_snoc isSps units, follows.pps.snoc (Nal.isPps_of_isSps isSps)⟩
  case isFalse notSps =>
    have notSps := Bool.eq_false_iff.2 notSps
    split
    case isTrue isPps => exact ⟨follows.sps.snoc notSps, tracks_snoc isPps units⟩
    case isFalse notPps =>
      exact ⟨follows.sps.snoc notSps, follows.pps.snoc (Bool.eq_false_iff.2 notPps)⟩

/-- Each unit that replaces a tracked set by another one is a change. -/
def changes (tracker : Tracker) : List Nal → Nat
  | [] => 0
  | unit :: rest =>
      (if tracker.record unit = tracker then 0 else 1) + (tracker.record unit).changes rest

theorem record_withCurrent (tracker : Tracker) (current : Option Configuration) (unit : Nal) :
    { tracker with current }.record unit = { tracker.record unit with current } := by
  rw [record, record]
  split
  · rfl
  · split <;> rfl

/-- The configuration in use has no part in the changes. -/
theorem changes_withCurrent (tracker : Tracker) (current : Option Configuration)
    (units : List Nal) : { tracker with current }.changes units = tracker.changes units := by
  induction units generalizing tracker with
  | nil => rfl
  | cons unit rest inductionHypothesis =>
      have same : { tracker.record unit with current } = { tracker with current } ↔
          tracker.record unit = tracker := by
        have kept := tracker.record_current unit
        generalize tracker.record unit = next at kept ⊢
        obtain ⟨sps, pps, geometry, old⟩ := tracker
        obtain ⟨nextSps, nextPps, nextGeometry, _⟩ := next
        cases kept
        simp
      rw [changes, changes, record_withCurrent, inductionHypothesis]
      simp only [same]

/-- A pair that makes a configuration is in use. -/
def Resolved (tracker : Tracker) : Prop :=
  ∀ configuration, tracker.Makes configuration → ∃ current, tracker.Uses current

theorem Makes.uses {configuration : Configuration} (makes : tracker.Makes configuration) :
    { tracker with current := some configuration }.Uses configuration := by
  obtain ⟨sps, pps, hasSps, hasPps, made⟩ := makes
  obtain ⟨rfl, rfl⟩ := Configuration.sets_of_ofParameterSets made
  exact ⟨rfl, hasSps, hasPps⟩

/-- A pair of well-formed sets still makes a configuration behind one more of them. -/
theorem Makes.record {configuration : Configuration} (makes : tracker.Makes configuration)
    (wellFormed : unit.isSps = true → ∃ set, Avc.Sps.parse unit.payload = .ok set) :
    ∃ next, (tracker.record unit).Makes next := by
  obtain ⟨sps, pps, hasSps, hasPps, made⟩ := makes
  obtain ⟨size, long, present⟩ := Configuration.exists_ofParameterSets_iff.1 ⟨_, made⟩
  rw [Tracker.record]
  split
  case isTrue isSps =>
    obtain ⟨set, parsed⟩ := wellFormed isSps
    have newSize : ∃ width height,
        Configuration.HasSize unit.payload tracker.geometry width height := by
      obtain ⟨width, height, known | ⟨unknown, -⟩⟩ := size
      · exact ⟨width, height, .inl known⟩
      · exact ⟨set.width, set.height, .inr ⟨unknown, set, parsed, rfl, rfl⟩⟩
    obtain ⟨next, built⟩ := Configuration.exists_ofParameterSets_iff.2
      ⟨newSize, Avc.Sps.length_of_parse parsed, present⟩
    exact ⟨next, unit.payload, pps, rfl, hasPps, built⟩
  case isFalse =>
    split
    case isTrue =>
      have header : unit.payload ≠ [] := List.cons_ne_nil _ _
      obtain ⟨next, built⟩ := Configuration.exists_ofParameterSets_iff.2 ⟨size, long, header⟩
      exact ⟨next, sps, unit.payload, hasSps, rfl, built⟩
    case isFalse => exact ⟨configuration, sps, pps, hasSps, hasPps, made⟩

/-- A configuration in use that was made before is made of the tracked pair. -/
theorem Makes.of_uses {other : Tracker} {configuration : Configuration}
    (makes : tracker.Makes configuration) (uses : other.Uses configuration)
    (geometry : other.geometry = tracker.geometry) : other.Makes configuration := by
  obtain ⟨sps, pps, -, -, made⟩ := makes
  obtain ⟨-, hasSps, hasPps⟩ := uses
  obtain ⟨rfl, rfl⟩ := Configuration.sets_of_ofParameterSets made
  exact ⟨_, _, hasSps, hasPps, geometry ▸ made⟩

theorem Makes.builtFrom {configuration : Configuration} (makes : tracker.Makes configuration)
    {units : List Nal} (follows : tracker.Follows units) {input : DecoderInput}
    (carries : input.Carries configuration) : BuiltFrom tracker.geometry units input := by
  obtain ⟨_, _, hasSps, hasPps, made⟩ := makes
  obtain ⟨sps, lastSps, rfl⟩ := follows.sps _ hasSps
  obtain ⟨pps, lastPps, rfl⟩ := follows.pps _ hasPps
  exact ⟨sps, pps, configuration, lastSps, lastPps, made, carries⟩

end Tracker

/-- The units that were seen led to these inputs and to this adapter, and the rest is to come. -/
structure Observing (first : Tracker) (before seen rest : List Nal) (inputs : List DecoderInput)
    (adapter : Adapter) : Prop where
  geometry : adapter.tracker.geometry = first.geometry
  needs : adapter.strategy.kind.needsConfiguration = true
  follows : adapter.tracker.Follows (before ++ seen)
  resolved : adapter.tracker.Resolved
  count : inputs.length + adapter.tracker.changes rest ≤ first.changes (seen ++ rest)
  built : ∀ input ∈ inputs, ∃ earlier unit later, seen = earlier ++ unit :: later ∧
    unit.isParameterSet = true ∧ BuiltFrom first.geometry (before ++ earlier ++ [unit]) input
  last : (∀ unit ∈ seen, unit.isSps = true → ∃ set, Avc.Sps.parse unit.payload = .ok set) →
    ∀ input ∈ inputs.getLast?, ∃ configuration, adapter.tracker.current = some configuration ∧
      adapter.tracker.Makes configuration ∧ input.Carries configuration

namespace Observing

variable {first : Tracker} {before seen rest : List Nal} {unit : Nal}
  {inputs : List DecoderInput} {adapter : Adapter}

/-- Each input stays made of the sets up to some unit. -/
theorem built_snoc (observing : Observing first before seen (unit :: rest) inputs adapter) :
    ∀ input ∈ inputs, ∃ earlier set later, seen ++ [unit] = earlier ++ set :: later ∧
      set.isParameterSet = true ∧ BuiltFrom first.geometry (before ++ earlier ++ [set]) input := by
  intro input member
  obtain ⟨earlier, set, later, split, isSet, built⟩ := observing.built input member
  refine ⟨earlier, set, later ++ [unit], ?_, isSet, built⟩
  rw [split, List.append_assoc, List.cons_append]

theorem follows_snoc (observing : Observing first before seen (unit :: rest) inputs adapter) :
    (adapter.tracker.record unit).Follows (before ++ (seen ++ [unit])) := by
  rw [← List.append_assoc]
  exact observing.follows.record unit

/-- What is still to come is counted without the first unit of it. -/
theorem count_snoc (observing : Observing first before seen (unit :: rest) inputs adapter) :
    inputs.length + ((if adapter.tracker.record unit = adapter.tracker then 0 else 1) +
      (adapter.tracker.record unit).changes rest) ≤ first.changes (seen ++ [unit] ++ rest) := by
  have count := observing.count
  rwa [Tracker.changes, List.append_cons] at count

/-- Other units than parameter sets lead to nothing. -/
theorem pass (observing : Observing first before seen (unit :: rest) inputs adapter)
    (other : unit.isParameterSet = false) :
    Observing first before (seen ++ [unit]) rest inputs adapter where
  geometry := observing.geometry
  needs := observing.needs
  follows := by
    have follows := observing.follows_snoc
    rwa [Tracker.record_of_other other] at follows
  resolved := observing.resolved
  count := by
    have count := observing.count_snoc
    rwa [Tracker.record_of_other other, if_pos rfl, Nat.zero_add] at count
  built := observing.built_snoc
  last wellFormed := observing.last fun unit member =>
    wellFormed unit (List.mem_append_left _ member)

/-- A set that makes a new configuration has changed the tracked pair. -/
theorem configured {configuration : Configuration}
    (observing : Observing first before seen (unit :: rest) inputs adapter)
    (set : unit.isParameterSet = true)
    (makes : (adapter.tracker.record unit).Makes configuration)
    (unused : ¬∃ current, (adapter.tracker.record unit).Uses current) :
    Observing first before (seen ++ [unit]) rest
      (inputs ++ (adapter.strategy.configure configuration).1)
      { adapter with
        tracker := { adapter.tracker.record unit with current := some configuration }
        strategy := (adapter.strategy.configure configuration).2 } := by
  obtain ⟨input, only, carries⟩ := Strategy.configure_carries observing.needs configuration
  rw [only]
  -- A pair that was tracked before is in use or malformed, so it configures nothing.
  have changed : adapter.tracker.record unit ≠ adapter.tracker := by
    intro same
    rw [same] at makes unused
    exact unused (observing.resolved configuration makes)
  refine ⟨?_, ?_, ⟨observing.follows_snoc.sps, observing.follows_snoc.pps⟩, ?_, ?_, ?_, ?_⟩
  · exact (Tracker.record_geometry _ _).trans observing.geometry
  · exact (congrArg _ (Adapter.kind_configure _ _)).trans observing.needs
  · exact fun _ _ => ⟨configuration, makes.uses⟩
  · have count := observing.count_snoc
    rw [if_neg changed] at count
    rw [Tracker.changes_withCurrent, List.length_append, List.length_singleton]
    omega
  · rw [List.forall_mem_append, List.forall_mem_singleton]
    refine ⟨observing.built_snoc, seen, unit, [], rfl, set, ?_⟩
    have built := makes.builtFrom observing.follows_snoc carries
    rwa [Tracker.record_geometry, observing.geometry, ← List.append_assoc] at built
  · intro _ input last
    rw [List.getLast?_concat, Option.mem_some_iff] at last
    exact ⟨configuration, rfl, makes, last ▸ carries⟩

/-- A set that makes no new configuration leaves the last one made of the latest sets. -/
theorem kept (observing : Observing first before seen (unit :: rest) inputs adapter)
    (used : ∀ configuration, (adapter.tracker.record unit).Makes configuration →
      ∃ current, (adapter.tracker.record unit).Uses current) :
    Observing first before (seen ++ [unit]) rest inputs
      { adapter with tracker := adapter.tracker.record unit } := by
  refine ⟨?_, observing.needs, observing.follows_snoc, used, ?_, observing.built_snoc, ?_⟩
  · exact (Tracker.record_geometry _ _).trans observing.geometry
  · exact Nat.le_trans (Nat.add_le_add_left (Nat.le_add_left _ _) _) observing.count_snoc
  · intro wellFormed input last
    rw [List.forall_mem_append, List.forall_mem_singleton] at wellFormed
    obtain ⟨configuration, current, makes, carries⟩ := observing.last wellFormed.1 input last
    -- The pair makes some configuration, so it is in use, and the last input carries it.
    obtain ⟨next, nextMakes⟩ := makes.record wellFormed.2
    obtain ⟨inUse, uses⟩ := used next nextMakes
    have same : inUse = configuration := by
      have kept := uses.1
      rw [Tracker.record_current, current] at kept
      exact (Option.some.inj kept).symm
    rw [same] at uses
    exact ⟨configuration, uses.1, makes.of_uses uses (Tracker.record_geometry _ _), carries⟩

theorem observe (observing : Observing first before seen (unit :: rest) inputs adapter)
    (set : unit.isParameterSet = true) :
    Observing first before (seen ++ [unit]) rest (inputs ++ (adapter.observe unit).1)
      (adapter.observe unit).2 := by
  have observed := adapter.observe_observed set
  generalize adapter.observe unit = outcome at observed ⊢
  cases observed with
  | configured makes unused => exact observing.configured set makes unused
  | kept used =>
      rw [List.append_nil]
      exact observing.kept used

/-- All of the rest is observed. -/
theorem observeAll (observing : Observing first before seen rest inputs adapter) :
    Observing first before (seen ++ rest) []
      (inputs ++ (adapter.observeAll (rest.filter Nal.isParameterSet)).1)
      (adapter.observeAll (rest.filter Nal.isParameterSet)).2 := by
  induction rest generalizing seen inputs adapter with
  | nil => simpa [Adapter.observeAll] using observing
  | cons unit rest inductionHypothesis =>
      rw [List.append_cons]
      cases set : unit.isParameterSet with
      | true =>
          have next := inductionHypothesis (observing.observe set)
          rw [List.append_assoc inputs] at next
          rwa [List.filter_cons_of_pos set]
      | false =>
          rw [List.filter_cons_of_neg (Bool.eq_false_iff.1 set)]
          exact inductionHypothesis (observing.pass set)

end Observing

namespace Viewing

/-- The stream consists of these units since the decoder was torn down. -/
def units (viewing : Viewing) : List Nal :=
  viewing.pushed.flatMap fun pushed => Nal.split pushed.payload

theorem units_snoc (viewing : Viewing) (pushed : Pushed) (adapter : Adapter) :
    units { adapter, pushed := viewing.pushed ++ [pushed] } =
      viewing.units ++ Nal.split pushed.payload := by
  rw [units, List.flatMap_append, List.flatMap_singleton]
  rfl

/-- The tracker of a video follows its units, and a configuration of the tracker is in use. -/
structure Followed (viewing : Viewing) : Prop where
  ready : viewing.adapter.Ready
  needs : viewing.adapter.strategy.kind.needsConfiguration = true
  resolved : viewing.adapter.tracker.Resolved
  follows : viewing.adapter.kind ≠ some .jpeg → viewing.adapter.tracker.Follows viewing.units

theorem Followed.observing {viewing : Viewing} (followed : viewing.Followed)
    (moving : viewing.adapter.kind ≠ some .jpeg) (payload : Octets) :
    Observing viewing.adapter.tracker viewing.units (Nal.split payload) []
      (viewing.watching.observePayload payload).1 (viewing.watching.observePayload payload).2 := by
  have start : Observing viewing.adapter.tracker viewing.units [] (Nal.split payload) []
      viewing.watching := by
    refine ⟨rfl, followed.needs, ?_, followed.resolved, ?_, by simp, by simp⟩
    · rw [List.append_nil]
      exact followed.follows moving
    · rw [List.length_nil, Nat.zero_add]
      exact Nat.le_refl _
  exact start.observeAll

theorem Followed.watched {viewing : Viewing} (followed : viewing.Followed) (payload : Octets) :
    viewing.watching.Watched payload (viewing.watching.pushVideo payload) := by
  have ready : viewing.watching.Ready := followed.ready
  exact Adapter.pushVideo_watched ready followed.needs payload

/-- A tracker without sets follows any stream. -/
theorem followed_fresh {viewing : Viewing}
    (needs : viewing.adapter.strategy.kind.needsConfiguration = true)
    {geometry : Option (UInt32 × UInt32)} (fresh : viewing.adapter.tracker = { geometry }) :
    viewing.Followed where
  ready present := by
    rw [fresh] at present
    cases present
  needs := needs
  resolved configuration makes := by
    rw [fresh] at makes
    obtain ⟨_, _, missing, -⟩ := makes
    cases missing
  follows _ := by
    rw [fresh]
    constructor
    · intro _ same
      cases same
    · intro _ same
      cases same

/-- What a video leads to keeps the stream followed. -/
theorem Followed.video {viewing : Viewing} (followed : viewing.Followed)
    (moving : viewing.adapter.kind ≠ some .jpeg) {payload : Octets} {inputs : List DecoderInput}
    {next : Adapter}
    (watched : viewing.watching.Watched payload (.ok inputs, next)) :
    Followed { adapter := next
               pushed := viewing.pushed ++ [⟨payload, inputs, next.tracker.current⟩] } := by
  have observing := followed.observing moving payload
  cases watched with
  | waiting missing =>
      refine ⟨?_, observing.needs, observing.resolved, fun _ => ?_⟩
      · intro present
        rw [missing] at present
        cases present
      · rw [units_snoc]
        exact observing.follows
  | fed present fed ready kept plain =>
      refine ⟨fun _ => ready, kept ▸ observing.needs, observing.resolved, fun _ => ?_⟩
      rw [units_snoc]
      exact observing.follows

theorem Followed.push {viewing : Viewing} (followed : viewing.Followed) (payload : Octets) :
    (viewing.step (.push payload)).Followed := by
  have took := viewing.adapter.push_took payload
  rw [step]
  generalize viewing.adapter.push payload = outcome at took ⊢
  cases took with
  | nothing empty =>
      refine ⟨followed.ready, followed.needs, followed.resolved, fun moving => ?_⟩
      rw [units_snoc, empty, Nal.split_nil, List.append_nil]
      exact followed.follows moving
  | refused unknown fault => exact followed
  | image still =>
      exact ⟨followed.ready, followed.needs, followed.resolved, fun moving => absurd rfl moving⟩
  | video moving =>
      have watched := followed.watched payload
      rw [← watching]
      generalize viewing.watching.pushVideo payload = outcome at watched ⊢
      obtain ⟨result, next⟩ := outcome
      cases result with
      | ok inputs => exact followed.video moving watched
      | error fault => cases watched

theorem Followed.step {viewing : Viewing} (followed : viewing.Followed) (call : Adapter.Call) :
    (viewing.step call).Followed := by
  cases call with
  | push payload => exact followed.push payload
  | setGeometry width height => exact followed_fresh followed.needs rfl
  | teardown =>
      refine followed_fresh ?_ rfl
      have needs := followed.needs
      rw [Viewing.step, Adapter.teardown]
      cases strategy : viewing.adapter.strategy <;> rw [strategy] at needs <;> exact needs

/-- A payload configures the decoder once for each set that changes the tracked pair, from the
latest sets up to it, and last from the latest sets at its end. -/
theorem push_reconfigures {kind : StrategyKind} {fps timescale : UInt32}
    {calls : List Adapter.Call} {viewing : Viewing} {payload : Octets}
    (needs : kind.needsConfiguration = true)
    (reached : (opened kind fps timescale).run calls = viewing)
    (video : (viewing.adapter.push payload).2.kind = some .h264)
    (wellFormed : ∀ unit ∈ Nal.split payload, unit.isSps = true →
      ∃ set, Avc.Sps.parse unit.payload = .ok set) :
    ∃ configured fed next, viewing.adapter.push payload = (.ok (configured ++ fed), next) ∧
      (∀ input ∈ fed, input.configures = false) ∧
      configured.length ≤ viewing.adapter.tracker.changes (Nal.split payload) ∧
      (∀ input ∈ configured, ∃ earlier unit later,
        Nal.split payload = earlier ++ unit :: later ∧ unit.isParameterSet = true ∧
        BuiltFrom viewing.adapter.tracker.geometry (viewing.units ++ earlier ++ [unit]) input) ∧
      ∀ input ∈ configured.getLast?,
        BuiltFrom viewing.adapter.tracker.geometry (viewing.units ++ Nal.split payload) input := by
  have followed : viewing.Followed := by
    rw [← reached]
    refine run_induction (fun _ call followed => followed.step call) ?_ calls
    refine followed_fresh ?_ rfl
    cases kind <;> exact needs
  have took := viewing.adapter.push_took payload
  generalize viewing.adapter.push payload = outcome at took video ⊢
  cases took with
  | nothing empty => exact ⟨[], [], _, rfl, by simp, Nat.zero_le _, by simp, by simp⟩
  | refused unknown fault =>
      rw [unknown] at video
      cases video
  | image still => cases video
  | video moving =>
      have observing := followed.observing moving payload
      have last : ∀ input ∈ (viewing.watching.observePayload payload).1.getLast?,
          BuiltFrom viewing.adapter.tracker.geometry (viewing.units ++ Nal.split payload)
            input := by
        intro input member
        obtain ⟨configuration, -, makes, carries⟩ := observing.last wellFormed input member
        have built := makes.builtFrom observing.follows carries
        rwa [observing.geometry] at built
      have count := observing.count
      rw [List.append_nil] at count
      have watched := followed.watched payload
      rw [← watching]
      generalize viewing.watching.pushVideo payload = outcome at watched ⊢
      cases watched with
      | waiting missing =>
          exact ⟨_, [], _, by rw [List.append_nil], by simp, count, observing.built, last⟩
      | fed present fed ready kept plain =>
          exact ⟨_, _, _, rfl, plain, count, observing.built, last⟩

/-- A group that replaces only the second set configures the decoder once. -/
theorem push_reconfigures_second_set :
    let group (pps : UInt8) : Octets := [0, 0, 0, 1, 103, 66, 192, 31, 236, 160, 40, 2, 220, 128,
      0, 0, 0, 1, 104, 206, pps, 128, 0, 0, 0, 1, 101, 136, 132, 33]
    let viewing := (opened .buffered 30 90000).run [.push (group 60)]
    ∃ configured fed next, viewing.adapter.push (group 56) = (.ok (configured ++ fed), next) ∧
      (∀ input ∈ fed, input.configures = false) ∧ configured.length ≤ 1 ∧
      ∀ input ∈ configured.getLast?,
        BuiltFrom none (viewing.units ++ Nal.split (group 56)) input := by
  intro group viewing
  have video : (viewing.adapter.push (group 56)).2.kind = some .h264 := by decide +kernel
  have parsed : ∀ unit ∈ Nal.split (group 56), unit.isSps = true →
      Avc.Sps.parse unit.payload = .ok ⟨66, 192, 31, 1, false, true, 1280, 720⟩ := by decide +kernel
  have geometry : viewing.adapter.tracker.geometry = none := by decide +kernel
  have once : viewing.adapter.tracker.changes (Nal.split (group 56)) = 1 := by decide +kernel
  obtain ⟨configured, fed, next, pushed, plain, count, -, last⟩ :=
    push_reconfigures rfl rfl video fun unit member isSps => ⟨_, parsed unit member isSps⟩
  rw [geometry] at last
  rw [once] at count
  exact ⟨configured, fed, next, pushed, plain, count, last⟩

/-- A group that replaces both sets configures the decoder with the new first and the old second
set before it does so with the new pair. -/
theorem push_mixes_sets :
    let group (level pps : UInt8) : Octets := [0, 0, 0, 1, 103, 66, 192, level, 236, 160, 40, 2,
      220, 128, 0, 0, 0, 1, 104, 206, pps, 128, 0, 0, 0, 1, 101, 136, 132, 33]
    let record (level pps : UInt8) : Avc.Record := ⟨66, 192, level,
      [103, 66, 192, level, 236, 160, 40, 2, 220, 128], [104, 206, pps, 128]⟩
    let viewing := (opened .hardware 60 90000).run [.push (group 31 60)]
    (∀ unit ∈ Nal.split (group 30 56), unit.isSps = true →
      Avc.Sps.parse unit.payload = .ok ⟨66, 192, 30, 1, false, true, 1280, 720⟩) ∧
    (viewing.adapter.push (group 30 56)).1 = .ok [
      .configure "avc1.42c01e" 1280 720 (record 30 60).octets,
      .configure "avc1.42c01e" 1280 720 (record 30 56).octets,
      .chunk [0, 0, 0, 4, 101, 136, 132, 33] 16666 true] := by
  decide +kernel

end Viewing

end Decoder

end Screencast
