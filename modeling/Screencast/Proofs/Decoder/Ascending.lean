/-
This file follows the counts of a strategy over many calls. Its fragments are numbered one after the
other, and they are as far apart in time as the settings say, which may be nothing at all.
-/

import Screencast.Proofs.Decoder.Chunks
import Screencast.Proofs.Decoder.Lockstep

namespace Screencast

namespace Decoder

namespace DecoderInput

/-- A player of MP4 gets its fragments in segments. -/
def segment? : DecoderInput → Option Octets
  | .mediaSegment octets => some octets
  | _ => none

/-- A hardware decoder is told the time of each chunk. -/
def time? : DecoderInput → Option Nat
  | .chunk _ timestamp _ => some timestamp.toNat
  | _ => none

end DecoderInput

open DecoderInput

namespace Strategy

/-- A decoder gets these inputs from a call, and none when the call is refused. -/
def emitted (strategy : Strategy) (call : Call) : List DecoderInput :=
  (strategy.call call).1.toOption.getD []

/-- A decoder gets these inputs from the calls, the oldest first. -/
def inputs (strategy : Strategy) : List Call → List DecoderInput
  | [] => []
  | call :: rest => strategy.emitted call ++ (strategy.call call).2.inputs rest

section

variable {Value : Type} (select : DecoderInput → Option Value) (value : Nat → Value)
  (Counted : Nat → Strategy → Prop)

/-- A call keeps the count, or it emits the value of the count and goes on to the next one. -/
def CountsOn (count : Nat) (strategy : Strategy) (call : Call) : Prop :=
  ((strategy.emitted call).filterMap select = [] ∧ Counted count (strategy.call call).2) ∨
    ((strategy.emitted call).filterMap select = [value count] ∧
      Counted (count + 1) (strategy.call call).2)

variable {select value Counted}

/-- Calls that all count on emit the values one after the other. -/
theorem filterMap_inputs
    (next : ∀ count strategy call, Counted count strategy → call ≠ .teardown →
      CountsOn select value Counted count strategy call)
    {count : Nat} {strategy : Strategy} (counted : Counted count strategy) {calls : List Call}
    (alive : .teardown ∉ calls) :
    ∃ more, (strategy.inputs calls).filterMap select = (List.range' count more).map value := by
  -- The count is general, because the later calls go on behind the first one.
  induction calls generalizing count strategy with
  | nil => exact ⟨0, rfl⟩
  | cons call rest inductionHypothesis =>
      rw [List.mem_cons, not_or] at alive
      rw [inputs, List.filterMap_append]
      rcases next count strategy call counted (Ne.symm alive.1) with ⟨silent, kept⟩ | ⟨one, later⟩
      · rw [silent]
        exact inductionHypothesis kept alive.2
      · obtain ⟨more, others⟩ := inductionHypothesis later alive.2
        rw [one, others]
        exact ⟨more + 1, rfl⟩

end

end Strategy

/-- A player reads the number and the time of a fragment. -/
def stamps (segment : Octets) : Option Nat × Option Nat :=
  (Mp4.Box.fragmentNumber? segment, Mp4.Box.fragmentTime? segment)

/-- Times have a fixed width, so they begin again after the last one. -/
def timeAt (duration index : Nat) : Nat := (UInt64.ofNat (index * duration)).toNat

/-- The first fragment has the number one. -/
def stampsAt (duration : UInt32) (index : Nat) : Option Nat × Option Nat :=
  (some (UInt32.ofNat (index + 1)).toNat, some (timeAt duration.toNat index))

/-- The writer has written so many fragments, each of the same duration. -/
structure Wrote (duration : UInt32) (count : Nat) (writer : Mp4.Writer) : Prop where
  lasts : writer.sampleDuration = duration
  sequence : writer.sequence = .ofNat (count + 1)
  decodeTime : writer.decodeTime = .ofNat (count * duration.toNat)

namespace Wrote

variable {duration : UInt32} {count : Nat} {writer : Mp4.Writer}

theorem stamps_eq (wrote : Wrote duration count writer) (units : List Nal) :
    stamps (writer.mediaSegment units).1 = stampsAt duration count := by
  rw [stamps, Mp4.Writer.fragmentNumber?_mediaSegment, Mp4.Writer.fragmentTime?_mediaSegment,
    wrote.sequence, wrote.decodeTime]
  rfl

theorem advance (wrote : Wrote duration count writer) :
    Wrote duration (count + 1) writer.advance where
  lasts := wrote.lasts
  sequence := by
    change writer.sequence + 1 = _
    rw [wrote.sequence]
    exact (UInt32.ofNat_add _ 1).symm
  decodeTime := by
    change writer.decodeTime + writer.sampleDuration.toUInt64 = _
    rw [wrote.decodeTime, wrote.lasts, Nat.succ_mul, UInt64.ofNat_add, UInt64.ofNat_uInt32ToNat]

end Wrote

/-- A strategy that writes MP4 has written so many fragments. Without a writer there are none. -/
inductive Written (duration : UInt32) : Nat → Strategy → Prop
  | idle {state : Buffered} (unused : state.writer = none)
      (settings : state.timescale / max state.fps 1 = duration) :
      Written duration 0 (.buffered state)
  | writing {state : Buffered} {writer : Mp4.Writer} {count : Nat}
      (present : state.writer = some writer) (wrote : Wrote duration count writer) :
      Written duration count (.buffered state)

/-- A group becomes the next fragment, or none when it has no slice or a keyframe is awaited. -/
theorem Buffered.feed_configured {state : Buffered} {writer : Mp4.Writer}
    (present : state.writer = some writer) (units : List Nal) :
    state.feed units = (.ok [], state) ∨
      state.feed units = (.ok [.mediaSegment (writer.mediaSegment units).1],
        { state with writer := some writer.advance, awaitingKey := false }) := by
  rw [feed, present]
  dsimp only
  split
  · exact .inl rfl
  · exact .inr rfl

/-- A new configuration goes on with the writer, if there is one. -/
theorem Written.configure {duration : UInt32} {count : Nat} {strategy : Strategy}
    (written : Written duration count strategy) (configuration : Configuration) :
    Written duration count (strategy.configure configuration).2 := by
  cases written with
  | @idle state unused settings =>
      have first : (state.configure configuration).2.writer =
          some (.create configuration.record configuration.width configuration.height
            state.timescale state.fps) := by
        rw [Buffered.configure, unused]
        rfl
      exact .writing first ⟨settings, rfl, by rw [Nat.zero_mul]; rfl⟩
  | @writing state writer count present wrote =>
      have same : (state.configure configuration).2.writer =
          some (writer.reconfigure configuration.record configuration.width
            configuration.height) := by
        rw [Buffered.configure, present]
        rfl
      exact .writing same ⟨wrote.lasts, wrote.sequence, wrote.decodeTime⟩

theorem Written.countsOn {duration : UInt32} (count : Nat) (strategy : Strategy)
    (call : Strategy.Call) (written : Written duration count strategy) (alive : call ≠ .teardown) :
    Strategy.CountsOn (fun input => input.segment?.map stamps) (stampsAt duration)
      (Written duration) count strategy call := by
  cases call with
  | teardown => exact absurd rfl alive
  | configure configuration =>
      have kept := written.configure configuration
      cases written <;> exact .inl ⟨rfl, kept⟩
  | feed units =>
      rw [Strategy.CountsOn, Strategy.emitted, Strategy.call]
      cases written with
      | @idle state unused settings =>
          have refused : state.feed units =
              (.error (.notConfigured StrategyKind.buffered.name), state) := by
            rw [Buffered.feed, unused]
          rw [Strategy.feed, refused]
          exact .inl ⟨rfl, .idle unused settings⟩
      | @writing state writer count present wrote =>
          rcases Buffered.feed_configured present units with none | fragment
          · rw [Strategy.feed, none]
            exact .inl ⟨rfl, .writing present wrote⟩
          · rw [Strategy.feed, fragment]
            exact .inr ⟨congrArg (fun stamp => [stamp]) (wrote.stamps_eq units),
              .writing rfl wrote.advance⟩

/-- A hardware strategy has passed on so many chunks. -/
inductive Passed (duration : Nat) : Nat → Strategy → Prop
  | intro {state : Hardware} {count : Nat} (frameDuration : state.frameDuration = .ofNat duration)
      (frames : state.frames = .ofNat count) : Passed duration count (.hardware state)

theorem Passed.countsOn {duration : Nat} (count : Nat) (strategy : Strategy) (call : Strategy.Call)
    (passed : Passed duration count strategy) (alive : call ≠ .teardown) :
    Strategy.CountsOn time? (timeAt duration) (Passed duration) count strategy call := by
  cases passed with
  | @intro state count frameDuration frames =>
      cases call with
      | teardown => exact absurd rfl alive
      | configure configuration => exact .inl ⟨rfl, .intro frameDuration frames⟩
      | feed units =>
          rw [Strategy.CountsOn, Strategy.emitted, Strategy.call]
          cases configured : state.configured with
          | false =>
              have refused : state.feed units =
                  (.error (.notConfigured StrategyKind.hardware.name), state) := by
                rw [Hardware.feed, configured]
                rfl
              rw [Strategy.feed, refused]
              exact .inl ⟨rfl, .intro frameDuration frames⟩
          | true =>
              rcases Hardware.feed_configured configured units with none | ⟨-, chunk⟩
              · rw [Strategy.feed, none]
                exact .inl ⟨rfl, .intro frameDuration frames⟩
              · have next : state.frames + 1 = .ofNat (count + 1) := by
                  rw [frames]
                  exact (UInt64.ofNat_add _ 1).symm
                have time : (state.frames * state.frameDuration).toNat = timeAt duration count := by
                  rw [frames, frameDuration, ← UInt64.ofNat_mul]
                  rfl
                rw [Strategy.feed, chunk]
                exact .inr ⟨congrArg (fun time => [time]) time, .intro frameDuration next⟩

theorem timeAt_of_few {duration index : Nat} (fits : duration < 4294967296)
    (few : index < 4294967295) : timeAt duration index = index * duration := by
  have bound : index * duration ≤ 4294967294 * 4294967295 :=
    Nat.mul_le_mul (Nat.le_pred_of_lt few) (Nat.le_pred_of_lt fits)
  exact UInt64.toNat_ofNat_of_lt' (Nat.lt_of_le_of_lt bound (by decide))

theorem stampsAt_of_few (duration : UInt32) {index : Nat} (few : index < 4294967295) :
    stampsAt duration index = (some (index + 1), some (index * duration.toNat)) := by
  have fits : index + 1 < UInt32.size := by
    change index + 1 < 4294967296
    omega
  rw [stampsAt, timeAt_of_few duration.toNat_lt few, UInt32.toNat_ofNat_of_lt' fits]

/-- Multiples of a size go up when there are two of them, unless the size is zero. -/
theorem pairwise_multiples_iff (count size : Nat) :
    ((List.range' 0 count).map fun index => index * size).Pairwise (· < ·) ↔
      count ≤ 1 ∨ 0 < size := by
  rw [List.pairwise_map]
  constructor
  · intro ascending
    by_contra flat
    obtain ⟨more, rfl⟩ : ∃ more, count = more + 2 := ⟨count - 2, by omega⟩
    rw [List.range'_succ, List.range'_succ, List.pairwise_cons] at ascending
    have second := ascending.1 _ List.mem_cons_self
    rw [show size = 0 by omega] at second
    exact Nat.lt_irrefl _ second
  · intro steep
    rcases steep with few | positive
    · rcases Nat.le_one_iff_eq_zero_or_eq_one.1 few with rfl | rfl
      · exact List.Pairwise.nil
      · exact List.pairwise_singleton _ _
    · have ascending : (List.range' 0 count).Pairwise (· < ·) := List.pairwise_lt_range' 1
      exact ascending.imp fun below => Nat.mul_lt_mul_of_pos_right below positive

/-- A frame lasts for at least one unit when a second has no more frames than units. -/
theorem lasts_iff {fps : UInt32} (positive : 0 < fps.toNat) (units : UInt32) :
    0 < units.toNat / max fps.toNat 1 ↔ fps ≤ units := by
  rw [Nat.max_eq_left positive, Nat.div_pos_iff, UInt32.le_iff_toNat_le]
  exact and_iff_right positive

namespace Strategy

section

variable {calls : List Call} (alive : .teardown ∉ calls)

include alive

/-- Fragments are numbered from one, and each begins where the one before it ends. -/
theorem stamps_buffered (fps timescale : UInt32) {segments : List Octets}
    (got : ((create .buffered fps timescale).inputs calls).filterMap segment? = segments)
    (few : segments.length < 4294967295) :
    segments.map Mp4.Box.fragmentNumber? =
        ((List.range' 0 segments.length).map (· + 1)).map some ∧
      segments.map Mp4.Box.fragmentTime? =
        ((List.range' 0 segments.length).map
          (· * (timescale.toNat / max fps.toNat 1))).map some := by
  have fresh : Written (timescale / max fps 1) 0 (create .buffered fps timescale) := .idle rfl rfl
  obtain ⟨count, read⟩ := filterMap_inputs Written.countsOn fresh alive
  rw [← List.map_filterMap, got] at read
  have length : segments.length = count := by
    have lengths := congrArg List.length read
    rwa [List.length_map, List.length_map, List.length_range'] at lengths
  rw [length] at few ⊢
  have plain : (List.range' 0 count).map (stampsAt (timescale / max fps 1)) =
      (List.range' 0 count).map fun index =>
        (some (index + 1), some (index * (timescale.toNat / max fps.toNat 1))) := by
    apply List.map_congr_left
    intro index member
    have below := (List.mem_range'_1.1 member).2
    rw [stampsAt_of_few _ (by omega), UInt32.toNat_div, Mp4.Writer.toNat_max_one]
  rw [plain] at read
  have numbers := congrArg (List.map Prod.fst) read
  have starts := congrArg (List.map Prod.snd) read
  rw [List.map_map, List.map_map] at numbers starts ⊢
  exact ⟨numbers, starts⟩

/-- The chunks are as far apart as the rate says. -/
theorem times_hardware (fps timescale : UInt32) {times : List Nat}
    (got : ((create .hardware fps timescale).inputs calls).filterMap time? = times)
    (few : times.length < 4294967295) :
    times = (List.range' 0 times.length).map (· * (1000000 / max fps.toNat 1)) := by
  have fresh : Passed (1000000 / max fps.toNat 1) 0 (create .hardware fps timescale) :=
    .intro (Hardware.frameDuration_create fps) rfl
  obtain ⟨count, read⟩ := filterMap_inputs Passed.countsOn fresh alive
  rw [got] at read
  have length : times.length = count := by
    rw [read, List.length_map, List.length_range']
  rw [length] at few ⊢
  refine read.trans (List.map_congr_left ?_)
  intro index member
  have below := (List.mem_range'_1.1 member).2
  have small : 1000000 / max fps.toNat 1 ≤ 1000000 := Nat.div_le_self _ _
  exact timeAt_of_few (by omega) (by omega)

/-- The numbers of the fragments ascend. Their times ascend unless a fragment lasts for less than one
unit of the timescale, and those of the chunks unless a chunk lasts for less than a microsecond. -/
theorem ascends_iff (settings : Settings) (fps timescale : UInt32) :
    let accepted := (settings.withFps fps).withTimescale timescale
    let segments := ((create .buffered accepted.fps accepted.timescale).inputs calls).filterMap
      segment?
    let times := ((create .hardware accepted.fps accepted.timescale).inputs calls).filterMap time?
    (segments.length < 4294967295 →
      ∃ numbers starts : List Nat,
        segments.map Mp4.Box.fragmentNumber? = numbers.map some ∧
          segments.map Mp4.Box.fragmentTime? = starts.map some ∧
          numbers.Pairwise (· < ·) ∧
          (starts.Pairwise (· < ·) ↔ segments.length ≤ 1 ∨ accepted.fps ≤ accepted.timescale)) ∧
      (times.length < 4294967295 →
        (times.Pairwise (· < ·) ↔ times.length ≤ 1 ∨ accepted.fps ≤ 1000000)) := by
  intro accepted segments times
  have positive : 0 < accepted.fps.toNat := by
    change 0 < (max fps 1).toNat
    rw [Mp4.Writer.toNat_max_one]
    exact Nat.le_max_right _ _
  constructor
  · intro few
    obtain ⟨numbers, starts⟩ := stamps_buffered alive accepted.fps accepted.timescale rfl few
    refine ⟨_, _, numbers, starts, ?_, ?_⟩
    · rw [List.pairwise_map]
      exact (List.pairwise_lt_range' 1).imp Nat.succ_lt_succ
    · rw [pairwise_multiples_iff, lasts_iff positive]
  · intro few
    have multiples := times_hardware alive accepted.fps accepted.timescale rfl few
    have steps := pairwise_multiples_iff times.length (1000000 / max accepted.fps.toNat 1)
    rw [← multiples] at steps
    exact steps.trans (or_congr_right (lasts_iff positive 1000000))

end

/-- A second configuration does not set the counts back. -/
theorem ascends_iff_reconfigured :
    let record : Avc.Record := ⟨66, 192, 31, [103, 66, 192, 31], [104, 206]⟩
    let idr : Nal := ⟨.long, 101, [136, 132]⟩
    let calls : List Call := [.configure ⟨1280, 720, record⟩, .feed [idr],
      .configure ⟨720, 1280, record⟩, .feed [idr]]
    let segments := ((create .buffered 60 90000).inputs calls).filterMap segment?
    let times := ((create .hardware 60 90000).inputs calls).filterMap time?
    segments.length = 2 ∧
      (∃ numbers starts : List Nat,
        segments.map Mp4.Box.fragmentNumber? = numbers.map some ∧
          segments.map Mp4.Box.fragmentTime? = starts.map some ∧
          numbers.Pairwise (· < ·) ∧ starts.Pairwise (· < ·)) ∧
      times.length = 2 ∧ times.Pairwise (· < ·) := by
  intro record idr calls segments times
  have alive : .teardown ∉ calls := by decide
  have two : segments.length = 2 := by decide +kernel
  have both : times.length = 2 := by decide +kernel
  obtain ⟨fragments, chunks⟩ := ascends_iff alive {} 60 90000
  obtain ⟨numbers, starts, read, timed, ascending, later⟩ :=
    fragments (show segments.length < 4294967295 by omega)
  refine ⟨two, ⟨numbers, starts, read, timed, ascending, later.2 (.inr (by decide))⟩, both, ?_⟩
  exact (chunks (show times.length < 4294967295 by omega)).2 (.inr (by decide))

/-- At 60 frames in a second of 30 units, two fragments begin at the same time. -/
theorem ascends_iff_fast :
    let settings := (({} : Settings).withFps 60).withTimescale 30
    let record : Avc.Record := ⟨66, 192, 31, [103, 66, 192, 31], [104, 206]⟩
    let idr : Nal := ⟨.long, 101, [136, 132]⟩
    let inputs := (create .buffered settings.fps settings.timescale).inputs
      [.configure ⟨1280, 720, record⟩, .feed [idr], .feed [idr]]
    (inputs.filterMap segment?).map Mp4.Box.fragmentTime? = [some 0, some 0] := by
  intro settings record idr inputs
  have two : (inputs.filterMap segment?).length = 2 := by decide +kernel
  have short : settings.timescale.toNat / max settings.fps.toNat 1 = 0 := by decide
  have few : (inputs.filterMap segment?).length < 4294967295 := by omega
  have starts := (stamps_buffered (by decide) settings.fps settings.timescale rfl few).2
  rw [starts, two, short]
  rfl

end Strategy

end Decoder

end Screencast
