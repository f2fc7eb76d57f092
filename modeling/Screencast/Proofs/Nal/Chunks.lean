/-
This file shows that the division of a stream into chunks does not matter to the demuxer.
-/

import Screencast.Nal.Demuxer
import Screencast.Proofs.Nal.Search

namespace Screencast

namespace StartCode

/-- The two start codes differ in their third octet, so at most one of them is in front. -/
theorem atStart?_eq_some_iff {stream : Octets} {code : StartCode} :
    atStart? stream = some code ↔ code.octets <+: stream := by
  constructor
  · intro front
    unfold atStart? at front
    split at front
    · cases front
      exact List.isPrefixOf_iff_prefix.1 ‹_›
    · split at front
      · cases front
        exact List.isPrefixOf_iff_prefix.1 ‹_›
      · cases front
  · rintro ⟨rest, rfl⟩
    cases code <;> simp [atStart?, octets]

/-- The front octets alone decide about the start code there. -/
theorem atStart?_append {stream : Octets} (front : (atStart? stream).isSome) (more : Octets) :
    atStart? (stream ++ more) = atStart? stream := by
  obtain ⟨code, found⟩ := Option.isSome_iff_exists.1 front
  have before : code.octets <+: stream := atStart?_eq_some_iff.1 found
  rw [found]
  exact atStart?_eq_some_iff.2 (before.trans (List.prefix_append stream more))

/-- The front of a piece is a start code, short or long, whose last octet is the one. -/
theorem exists_atStart?_beginning {stream : Octets} {offset : Nat} (stands : StandsAt stream offset)
    (floor : Nat) :
    ∃ code, atStart? (stream.drop (beginning stream floor offset)) = some code ∧
      beginning stream floor offset + code.length = offset + 3 := by
  have fromTail : StandsAt (stream.drop offset) 0 := (standsAt_drop stream offset 0).2 stands
  obtain ⟨rest, tail⟩ := fromTail.exists_rest
  rw [beginning]
  split
  case isFalse => exact ⟨.short, by simp [tail, atStart?, octets], rfl⟩
  case isTrue long =>
      obtain ⟨positive, zero⟩ := long
      have before : offset - 1 < stream.length := (List.getElem?_eq_some_iff.1 zero).1
      have octet : stream[offset - 1] = 0 := (List.getElem?_eq_some_iff.1 zero).2
      refine ⟨.long, ?_, ?_⟩
      · rw [List.drop_eq_getElem_cons before, octet, Nat.sub_add_cancel (by omega), tail]
        simp [atStart?, octets]
      · change offset - 1 + 4 = offset + 3
        omega

/-- The found position is that of a start code, short or long. -/
theorem atStart?_drop_of_find? {stream : Octets} {start floor position : Nat}
    (found : find? stream start floor = some position) :
    (atStart? (stream.drop position)).isSome := by
  obtain ⟨offset, isFirst, rfl⟩ := find?_eq_some_iff.1 found
  obtain ⟨code, front, -⟩ := exists_atStart?_beginning isFirst.stands floor
  rw [front]
  rfl

end StartCode

namespace Demuxer

theorem cut_of_none {buffer : Octets} {scanned : Nat}
    (missed : StartCode.find? buffer (max scanned (headerOffset buffer)) (headerOffset buffer) =
      none) :
    cut buffer scanned = ([], ⟨buffer, true, max (buffer.length - 3) (headerOffset buffer)⟩) := by
  rw [cut]
  split
  · rfl
  · next found => rw [missed] at found; cases found

theorem cut_of_some {buffer : Octets} {scanned next : Nat}
    (found : StartCode.find? buffer (max scanned (headerOffset buffer)) (headerOffset buffer) =
      some next) :
    cut buffer scanned =
      ((Nal.ofData? (buffer.take next)).toList ++ (cut (buffer.drop next) 0).1,
        (cut (buffer.drop next) 0).2) := by
  rw [cut]
  split
  · next missed => rw [found] at missed; cases missed
  · next position same =>
      rw [found] at same
      cases same
      rfl

/-- Only what a search finds matters, not where it begins. -/
theorem cut_congr {buffer : Octets} {first second : Nat}
    (same : StartCode.find? buffer (max first (headerOffset buffer)) (headerOffset buffer) =
      StartCode.find? buffer (max second (headerOffset buffer)) (headerOffset buffer)) :
    cut buffer first = cut buffer second := by
  cases found : StartCode.find? buffer (max first (headerOffset buffer)) (headerOffset buffer) with
  | none =>
      have missed := same.symm.trans found
      rw [cut_of_none found, cut_of_none missed]
  | some next =>
      have again := same.symm.trans found
      rw [cut_of_some found, cut_of_some again]

/-- An open unit begins with its start code. -/
def Aligned (buffer : Octets) : Prop := (StartCode.atStart? buffer).isSome

theorem headerOffset_append {buffer : Octets} (aligned : Aligned buffer) (more : Octets) :
    headerOffset (buffer ++ more) = headerOffset buffer := by
  rw [headerOffset, headerOffset, StartCode.atStart?_append aligned]

/-- The scan of an open unit stops where a start code may still be incomplete. -/
structure Open (buffer : Octets) (scanned : Nat) : Prop where
  aligned : Aligned buffer
  bounded : scanned ≤ max (buffer.length - 3) (headerOffset buffer)

theorem Open.append {buffer : Octets} {scanned : Nat} (isOpen : Open buffer scanned)
    (more : Octets) : Open (buffer ++ more) scanned where
  aligned := by
    rw [Aligned, StartCode.atStart?_append isOpen.aligned]
    exact isOpen.aligned
  bounded := by
    have bounded := isOpen.bounded
    rw [headerOffset_append isOpen.aligned, List.length_append]
    omega

/-- A cut begins the next unit at a start code. -/
theorem Open.drop {buffer : Octets} {start floor next : Nat}
    (found : StartCode.find? buffer start floor = some next) : Open (buffer.drop next) 0 :=
  ⟨StartCode.atStart?_drop_of_find? found, Nat.zero_le _⟩

/-- A cut always leaves an open unit. -/
theorem cut_open (buffer : Octets) (scanned : Nat) (aligned : Aligned buffer) :
    (cut buffer scanned).2.synced ∧
      Open (cut buffer scanned).2.buffer (cut buffer scanned).2.scanned := by
  fun_induction cut buffer scanned with
  | case1 buffer scanned header missed => exact ⟨rfl, aligned, Nat.le_refl _⟩
  | case2 buffer scanned header next found units rest cutRest inductionHypothesis =>
      simpa only [cutRest] using inductionHypothesis (Open.drop found).aligned

/-- Cutting a longer buffer first cuts the shorter one and goes on from where that stopped. -/
theorem cut_append (buffer : Octets) (scanned : Nat) (more : Octets)
    (isOpen : Open buffer scanned) :
    cut (buffer ++ more) scanned =
      let (units, rest) := cut buffer scanned
      let (others, last) := cut (rest.buffer ++ more) rest.scanned
      (units ++ others, last) := by
  fun_induction cut buffer scanned with
  | case1 buffer scanned header missed =>
      have same : headerOffset (buffer ++ more) = header := headerOffset_append isOpen.aligned more
      have bounded : scanned ≤ max (buffer.length - 3) header := isOpen.bounded
      refine cut_congr ?_
      rw [same]
      refine StartCode.find?_append_of_none missed more ?_ ?_
      all_goals
        dsimp only
        omega
  | case2 buffer scanned header next found units rest cutRest inductionHypothesis =>
      have same : headerOffset (buffer ++ more) = header := headerOffset_append isOpen.aligned more
      have position := (StartCode.find?_bounds (Nat.le_max_right scanned header) found).2
      have longer := StartCode.find?_append_of_some found more
      rw [← same] at longer
      rw [cut_of_some longer, List.take_append_of_le_length (by omega),
        List.drop_append_of_le_length (by omega), inductionHypothesis (Open.drop found)]
      simp only [cutRest, List.append_assoc]

/-- The calls that a demuxer receives. -/
inductive Call
  | feed (chunk : Octets)
  | flush
  | reset
  deriving DecidableEq, Repr

/-- This is the state that a call leaves. -/
def call (demuxer : Demuxer) : Call → Demuxer
  | .feed chunk => (demuxer.feed chunk).2
  | .flush => demuxer.flush.2
  | .reset => demuxer.reset

/-- A synced buffer is an open unit, and an empty chunk changes nothing. -/
structure Sound (demuxer : Demuxer) : Prop where
  isOpen : demuxer.synced → Open demuxer.buffer demuxer.scanned
  settled : demuxer.feed [] = ([], demuxer)

theorem feed_of_synced {demuxer : Demuxer} (synced : demuxer.synced) (chunk : Octets) :
    demuxer.feed chunk = cut (demuxer.buffer ++ chunk) demuxer.scanned := by
  simp only [feed, synced, if_true]

theorem feed_of_found {demuxer : Demuxer} (searching : ¬ demuxer.synced) {chunk : Octets}
    {position : Nat} (found : StartCode.find? (demuxer.buffer ++ chunk) 0 0 = some position) :
    demuxer.feed chunk = cut ((demuxer.buffer ++ chunk).drop position) 0 := by
  simp only [feed, searching, found, if_false, Bool.false_eq_true]

theorem feed_of_missed {demuxer : Demuxer} (searching : ¬ demuxer.synced) {chunk : Octets}
    (missed : StartCode.find? (demuxer.buffer ++ chunk) 0 0 = none) :
    demuxer.feed chunk = ([], { demuxer with
      buffer := (demuxer.buffer ++ chunk).drop ((demuxer.buffer ++ chunk).length - 3) }) := by
  simp only [feed, searching, missed, if_false, Bool.false_eq_true]

theorem isOpen_feed {demuxer : Demuxer}
    (isOpen : demuxer.synced → Open demuxer.buffer demuxer.scanned) (chunk : Octets) :
    (demuxer.feed chunk).2.synced →
      Open (demuxer.feed chunk).2.buffer (demuxer.feed chunk).2.scanned := by
  by_cases synced : demuxer.synced
  · rw [feed_of_synced synced]
    exact fun _ => (cut_open _ _ ((isOpen synced).append chunk).aligned).2
  cases found : StartCode.find? (demuxer.buffer ++ chunk) 0 0 with
  | none =>
      rw [feed_of_missed synced found]
      exact fun impossible => absurd impossible synced
  | some position =>
      rw [feed_of_found synced found]
      exact fun _ => (cut_open _ _ (Open.drop found).aligned).2

/-- A cut and a later feed do what one cut does. -/
theorem feed_cut {buffer : Octets} {scanned : Nat} (isOpen : Open buffer scanned)
    (more : Octets) :
    cut (buffer ++ more) scanned =
      let (units, middle) := cut buffer scanned
      let (others, last) := middle.feed more
      (units ++ others, last) := by
  rw [cut_append buffer scanned more isOpen]
  simp only [feed_of_synced (cut_open buffer scanned isOpen.aligned).1]

/-- A search that goes on with the last three octets finds what a search of all octets finds. -/
theorem find?_kept {held : Octets} (missed : StartCode.find? held 0 0 = none) (more : Octets) :
    StartCode.find? (held ++ more) 0 0 =
      (StartCode.find? (held.drop (held.length - 3) ++ more) 0 0).map (held.length - 3 + ·) := by
  rw [← List.drop_append_of_le_length (Nat.sub_le held.length 3)]
  refine StartCode.find?_drop fun positive offset dropped => ?_
  rw [StartCode.standsAt_append (by omega)]
  exact StartCode.find?_eq_none_iff.1 missed offset (Nat.zero_le offset)

/-- The last three octets of a longer buffer come from the last three of the shorter one. -/
theorem kept_append (held more : Octets) :
    (held.drop (held.length - 3) ++ more).drop
        ((held.drop (held.length - 3) ++ more).length - 3) =
      (held ++ more).drop ((held ++ more).length - 3) := by
  rw [← List.drop_append_of_le_length (Nat.sub_le held.length 3), List.drop_drop,
    List.length_drop, List.length_append]
  congr 1
  omega

/-- A chunk without a start code only leaves its last octets for the next one. -/
theorem feed_append_of_missed {demuxer : Demuxer} (searching : ¬ demuxer.synced)
    {first : Octets} (missed : StartCode.find? (demuxer.buffer ++ first) 0 0 = none)
    (second : Octets) :
    demuxer.feed (first ++ second) = (demuxer.feed first).2.feed second := by
  have resumed := find?_kept missed second
  have kept := kept_append (demuxer.buffer ++ first) second
  rw [feed_of_missed searching missed]
  let middle : Demuxer := { demuxer with
    buffer := (demuxer.buffer ++ first).drop ((demuxer.buffer ++ first).length - 3) }
  have still : ¬ middle.synced := searching
  change _ = middle.feed second
  cases found : StartCode.find? (middle.buffer ++ second) 0 0 with
  | none =>
      rw [found, Option.map_none, List.append_assoc] at resumed
      rw [feed_of_missed searching resumed, feed_of_missed still found]
      simp only [middle, kept, List.append_assoc]
  | some position =>
      rw [found, Option.map_some, List.append_assoc] at resumed
      rw [feed_of_found searching resumed, feed_of_found still found,
        ← List.drop_append_of_le_length (Nat.sub_le _ 3), List.drop_drop, List.append_assoc]

/-- Two chunks are fed like one. -/
theorem feed_append_of_isOpen {demuxer : Demuxer}
    (isOpen : demuxer.synced → Open demuxer.buffer demuxer.scanned) (first second : Octets) :
    demuxer.feed (first ++ second) =
      let (units, middle) := demuxer.feed first
      let (more, last) := middle.feed second
      (units ++ more, last) := by
  by_cases synced : demuxer.synced
  · rw [feed_of_synced synced, feed_of_synced synced, ← List.append_assoc]
    exact feed_cut ((isOpen synced).append first) second
  cases found : StartCode.find? (demuxer.buffer ++ first) 0 0 with
  | some position =>
      have longer := StartCode.find?_append_of_some found second
      have bounds := StartCode.find?_bounds (Nat.le_refl 0) found
      rw [feed_of_found synced found, ← feed_cut (Open.drop found),
        ← List.drop_append_of_le_length (Nat.le_of_lt bounds.2)]
      rw [List.append_assoc] at longer ⊢
      exact feed_of_found synced longer
  | none =>
      rw [feed_append_of_missed synced found]
      simp only [feed_of_missed synced found, List.nil_append]

/-- A new demuxer has nothing open. -/
theorem Sound.fresh : Sound {} := ⟨by simp, rfl⟩

theorem Sound.feed {demuxer : Demuxer} (sound : demuxer.Sound) (chunk : Octets) :
    (demuxer.feed chunk).2.Sound := by
  refine ⟨isOpen_feed sound.isOpen chunk, ?_⟩
  have twice := feed_append_of_isOpen sound.isOpen chunk []
  rw [List.append_nil] at twice
  have units := congrArg Prod.fst twice
  have state := congrArg Prod.snd twice
  exact Prod.ext (List.append_right_eq_self.1 units.symm) state.symm

/-- Every call leaves a sound demuxer. -/
theorem Sound.call {demuxer : Demuxer} (sound : demuxer.Sound) (next : Call) :
    (demuxer.call next).Sound := by
  cases next with
  | feed chunk => exact sound.feed chunk
  | flush => exact Sound.fresh
  | reset => exact Sound.fresh

/-- The state after some calls to a new demuxer. -/
def after (calls : List Call) : Demuxer := calls.foldl call {}

theorem sound_after (calls : List Call) : (after calls).Sound :=
  List.foldlRecOn calls call Sound.fresh fun _ sound next _ => sound.call next

/-- Chunks are fed like the stream that they divide. -/
theorem feedAll_eq_feed {demuxer : Demuxer} (sound : demuxer.Sound) (chunks : List Octets) :
    demuxer.feedAll chunks = demuxer.feed chunks.flatten := by
  induction chunks generalizing demuxer with
  | nil => exact sound.settled.symm
  | cons chunk rest inductionHypothesis =>
      rw [List.flatten_cons, feed_append_of_isOpen sound.isOpen]
      simp only [feedAll, inductionHypothesis (sound.feed chunk)]

/-- The division of a stream does not matter in any state that calls lead to, empty chunks
included. Two chunks give the units of their concatenation and leave the same state, and all
divisions of a stream give the same units and the same last one. -/
theorem feed_division (calls : List Call) :
    (∀ first second : Octets,
      let whole := (after calls).feed (first ++ second)
      let former := (after calls).feed first
      let latter := former.2.feed second
      whole.1 = former.1 ++ latter.1 ∧ whole.2 = latter.2 ∧
        whole.2.pending = latter.2.pending) ∧
    ∀ chunks others : List Octets, chunks.flatten = others.flatten →
      ((after calls).feedAll chunks).1 = ((after calls).feedAll others).1 ∧
        ((after calls).feedAll chunks).2.flush = ((after calls).feedAll others).2.flush := by
  have sound := sound_after calls
  constructor
  · intro first second whole former latter
    have same : whole = (former.1 ++ latter.1, latter.2) :=
      feed_append_of_isOpen sound.isOpen first second
    rw [same]
    exact ⟨rfl, rfl, rfl⟩
  · intro chunks others same
    rw [feedAll_eq_feed sound chunks, feedAll_eq_feed sound others, same]
    exact ⟨rfl, rfl⟩

/-- A long start code is divided behind each of its octets, with a unit open before it. -/
theorem feed_division_divided_code :
    ([[0], [], [0, 0], [1, 9]] : List Octets).flatten = [[0, 0, 0, 1, 9]].flatten ∧
      ((after [.flush, .feed [0, 0, 1, 7]]).feedAll [[0], [], [0, 0], [1, 9]]).1 =
        ((after [.flush, .feed [0, 0, 1, 7]]).feedAll [[0, 0, 0, 1, 9]]).1 :=
  ⟨by decide, ((feed_division [.flush, .feed [0, 0, 1, 7]]).2 _ _ (by decide)).1⟩

example : ((after [.flush, .feed [0, 0, 1, 7]]).feedAll [[0], [], [0, 0], [1, 9]]).1 =
    [⟨.short, 7, []⟩] := by decide +kernel

end Demuxer

end Screencast
