/-
This file shows that images are cut out of a stream as they were written into it, when the codec
delimits them by their lengths. The reads that bring the stream do not matter.
-/

import Mathlib.Algebra.Group.Nat.Defs
import Mathlib.Data.List.Infix
import Screencast.Grabber.Framing

namespace Screencast.Grabber

namespace Delimiting

variable (delimiting : Delimiting)

/-- A length is written in front of its frame. -/
def lengthField (length : Nat) : Octets :=
  if delimiting.bigEndian then Octets.bigEndian delimiting.lengthOctets length
  else Octets.littleEndian delimiting.lengthOctets length

theorem length_lengthField (length : Nat) :
    (delimiting.lengthField length).length = delimiting.lengthOctets := by
  unfold lengthField
  split
  · exact Octets.length_bigEndian _ _
  · exact Octets.length_littleEndian _ _

def written (frame : Octets) : Octets := delimiting.lengthField frame.length ++ frame

theorem length_written (frame : Octets) :
    (delimiting.written frame).length = delimiting.lengthOctets + frame.length := by
  rw [written, List.length_append, length_lengthField]

/-- So many octets have a length that can be written. -/
def Writable (length : Nat) : Prop := length < 256 ^ delimiting.lengthOctets

/-- A frame fits when its length is within the limit. -/
def Fits (length : Nat) : Prop := length ≤ delimiting.limit ∧ delimiting.Writable length

/-- Octets are open when they end inside a length, or before the end of a frame that fits. -/
def Open (octets : Octets) : Prop :=
  octets.length < delimiting.lengthOctets ∨
    ∃ frame more, delimiting.Fits frame.length ∧ more ≠ [] ∧
      delimiting.written frame = octets ++ more

/-- A length above the limit stands in front of these octets. -/
def Oversized (octets : Octets) : Prop :=
  ∃ length rest, delimiting.limit < length ∧ delimiting.Writable length ∧
    octets = delimiting.lengthField length ++ rest

end Delimiting

/-- A codec decodes from a state that knows the open frame. -/
structure Codec where
  State : Type
  fresh : State
  decode : State → Octets → Decoded State

namespace Codec

variable (codec : Codec)

/-- A codec takes off each whole frame that fits, and refuses the others as soon as their length is
there. It waits when the buffer is open, and goes on later as if all octets had come at once. -/
structure Delimits (delimiting : Delimiting) : Prop where
  whole : ∀ frame rest, delimiting.Fits frame.length →
    codec.decode codec.fresh (delimiting.written frame ++ rest) = .frame frame codec.fresh rest
  oversized : ∀ octets, delimiting.Oversized octets → codec.decode codec.fresh octets = .refused
  waits : ∀ octets, delimiting.Open octets → ∃ state rest,
    codec.decode codec.fresh octets = .wait state rest ∧ rest <:+ octets ∧
      ∀ more, codec.decode state (rest ++ more) = codec.decode codec.fresh (octets ++ more)

/-- A framer takes all frames off its buffer before it reads more. At the end of the stream it has no
more reads and the codec tries the buffer again. What is left in the buffer then is a defect. -/
inductive Framed :
    codec.State → Octets → Option (List Octets) → List Octets × Option FramingDefect → Prop
  | frame {state next : codec.State} {buffer rest frame : Octets} {later : Option (List Octets)}
      {frames : List Octets} {defect : Option FramingDefect}
      (decoded : codec.decode state buffer = .frame frame next rest)
      (others : Framed next rest later (frames, defect)) :
      Framed state buffer later (frame :: frames, defect)
  | refused {state : codec.State} {buffer : Octets} {later : Option (List Octets)}
      (decoded : codec.decode state buffer = .refused) :
      Framed state buffer later ([], some .tooLarge)
  | read {state next : codec.State} {buffer rest octets : Octets} {reads : List Octets}
      {result : List Octets × Option FramingDefect}
      (decoded : codec.decode state buffer = .wait next rest)
      (framed : Framed next (rest ++ octets) (some reads) result) :
      Framed state buffer (some (octets :: reads)) result
  | close {state next : codec.State} {buffer rest : Octets}
      {result : List Octets × Option FramingDefect}
      (decoded : codec.decode state buffer = .wait next rest)
      (framed : Framed next rest none result) :
      Framed state buffer (some []) result
  | ended {state next : codec.State} {buffer : Octets}
      (decoded : codec.decode state buffer = .wait next []) :
      Framed state buffer none ([], none)
  | remains {state next : codec.State} {buffer rest : Octets} (nonempty : rest ≠ [])
      (decoded : codec.decode state buffer = .wait next rest) :
      Framed state buffer none ([], some .remainder)

/-- A framer reads before it decodes for the first time. -/
def Frames (reads : List Octets) (result : List Octets × Option FramingDefect) : Prop :=
  match reads with
  | [] => codec.Framed codec.fresh [] none result
  | octets :: reads => codec.Framed codec.fresh octets (some reads) result

end Codec

section Streams

variable {delimiting : Delimiting} {frames : List Octets} {tail : Octets}

namespace Delimiting

theorem open_nil : delimiting.Open [] := .inl delimiting.width.1

/-- What stands in front of open octets is open. -/
theorem Open.of_append {front rest : Octets} (isOpen : delimiting.Open (front ++ rest)) :
    delimiting.Open front := by
  rcases isOpen with short | ⟨frame, more, fits, nonempty, whole⟩
  · rw [List.length_append] at short
    exact .inl (by omega)
  · exact .inr ⟨frame, rest ++ more, fits, by simp [nonempty], by rw [whole, List.append_assoc]⟩

theorem Oversized.ne_nil (oversized : delimiting.Oversized tail) : tail ≠ [] := by
  obtain ⟨length, rest, -, -, rfl⟩ := oversized
  have field := delimiting.length_lengthField length
  have width := delimiting.width.1
  intro empty
  have bound := congrArg List.length empty
  rw [List.length_append, List.length_nil] at bound
  omega

/-- A length that is too large is seen as soon as it is there. -/
theorem Oversized.of_append {front rest : Octets}
    (oversized : delimiting.Oversized (front ++ rest))
    (long : delimiting.lengthOctets ≤ front.length) : delimiting.Oversized front := by
  obtain ⟨length, behind, above, writable, whole⟩ := oversized
  have field := delimiting.length_lengthField length
  have begins : delimiting.lengthField length <+: front :=
    List.prefix_of_prefix_length_le ⟨behind, whole.symm⟩ ⟨rest, rfl⟩ (field.trans_le long)
  obtain ⟨more, front⟩ := begins
  exact ⟨length, more, above, writable, front.symm⟩

/-- A stream begins with a whole frame, with an open one or with one that is too large. -/
theorem classify {front rest : Octets}
    (fit : ∀ frame ∈ frames, delimiting.Fits frame.length)
    (ends : delimiting.Open tail ∨ delimiting.Oversized tail)
    (stream : front ++ rest = frames.flatMap delimiting.written ++ tail) :
    (∃ frame others more, frames = frame :: others ∧ front = delimiting.written frame ++ more ∧
        more ++ rest = others.flatMap delimiting.written ++ tail) ∨
      delimiting.Open front ∨ (frames = [] ∧ delimiting.Oversized front) := by
  cases frames with
  | nil =>
      have whole : front ++ rest = tail := stream
      rcases ends with isOpen | oversized
      · exact .inr (.inl (whole ▸ isOpen).of_append)
      · by_cases short : front.length < delimiting.lengthOctets
        · exact .inr (.inl (.inl short))
        · exact .inr (.inr ⟨rfl, (whole ▸ oversized).of_append (Nat.le_of_not_lt short)⟩)
  | cons frame others =>
      rw [List.flatMap_cons, List.append_assoc] at stream
      rcases List.append_eq_append_iff.1 stream with ⟨more, inside, later⟩ | ⟨more, begins, later⟩
      · by_cases nothing : more = []
        · subst nothing
          rw [List.append_nil] at inside
          exact .inl ⟨frame, others, [], rfl, by simp [inside], later⟩
        · exact .inr (.inl (.inr ⟨frame, more, fit frame List.mem_cons_self, nothing, inside⟩))
      · exact .inl ⟨frame, others, more, rfl, begins, later.symm⟩

end Delimiting

namespace Codec

variable {codec : Codec} {state : codec.State} {buffer : Octets} {reads : List Octets}
  {result : List Octets × Option FramingDefect}

/-- A codec that waits goes on with later octets as if they had come at once. -/
theorem Delimits.goes_on (delimits : codec.Delimits delimiting) {whole rest behind : Octets}
    {next : codec.State} (waits : codec.decode codec.fresh whole = .wait next rest)
    (fit : ∀ frame ∈ frames, delimiting.Fits frame.length)
    (ends : delimiting.Open tail ∨ delimiting.Oversized tail)
    (stream : whole ++ behind = frames.flatMap delimiting.written ++ tail) (more : Octets) :
    codec.decode next (rest ++ more) = codec.decode codec.fresh (whole ++ more) := by
  rcases Delimiting.classify fit ends stream with
    ⟨first, _, more, rfl, rfl, -⟩ | isOpen | ⟨-, oversized⟩
  · cases (delimits.whole first more (fit first List.mem_cons_self)).symm.trans waits
  · obtain ⟨_, _, decoded, -, goesOn⟩ := delimits.waits whole isOpen
    cases decoded.symm.trans waits
    exact goesOn more
  · cases (delimits.oversized whole oversized).symm.trans waits

/-- A codec that waits at the end of a stream has seen all whole frames. -/
theorem Delimits.last (delimits : codec.Delimits delimiting) {whole rest : Octets}
    {next : codec.State} (waits : codec.decode codec.fresh whole = .wait next rest)
    (fit : ∀ frame ∈ frames, delimiting.Fits frame.length)
    (stream : whole = frames.flatMap delimiting.written ++ tail) :
    frames = [] ∧ ¬ delimiting.Oversized tail ∧ (tail = [] → rest = []) := by
  cases frames with
  | cons frame others =>
      rw [stream, List.flatMap_cons, List.append_assoc,
        delimits.whole frame _ (fit frame List.mem_cons_self)] at waits
      cases waits
  | nil =>
      have same : whole = tail := stream
      subst same
      refine ⟨rfl, fun oversized => ?_, fun empty => ?_⟩
      · cases (delimits.oversized whole oversized).symm.trans waits
      · obtain ⟨_, _, decoded, left, -⟩ := delimits.waits [] Delimiting.open_nil
        rw [empty, decoded] at waits
        cases waits
        exact List.suffix_nil.1 left

/-- What a framer gives of a stream that its codec delimits. The buffer and the state stand for the
octets that came behind the last frame. -/
theorem Framed.result_eq (delimits : codec.Delimits delimiting) {later : Option (List Octets)}
    (framed : codec.Framed state buffer later result) {whole : Octets}
    (same : codec.decode state buffer = codec.decode codec.fresh whole)
    (fit : ∀ frame ∈ frames, delimiting.Fits frame.length)
    (ends : delimiting.Open tail ∨ delimiting.Oversized tail)
    (stream : whole ++ (later.getD []).flatten = frames.flatMap delimiting.written ++ tail) :
    result.1 = frames ∧ (delimiting.Oversized tail → result.2 = some .tooLarge) ∧
      (tail = [] → result.2 = none) := by
  -- Each constructor says what the codec decoded. What stands at the front of the stream says it,
  -- too, and both have to agree.
  induction framed generalizing whole frames with
  | @frame state next buffer rest frame later others defect decoded _ inductionHypothesis =>
      rw [same] at decoded
      rcases Delimiting.classify fit ends stream with
        ⟨first, images, more, rfl, rfl, behind⟩ | isOpen | ⟨rfl, oversized⟩
      · obtain ⟨fits, others⟩ := List.forall_mem_cons.1 fit
        rw [delimits.whole first more fits] at decoded
        cases decoded
        obtain ⟨equal, settled⟩ := inductionHypothesis rfl others behind
        exact ⟨congrArg (frame :: ·) equal, settled⟩
      · obtain ⟨_, _, waits, -⟩ := delimits.waits whole isOpen
        cases waits.symm.trans decoded
      · cases (delimits.oversized whole oversized).symm.trans decoded
  | refused decoded =>
      rw [same] at decoded
      rcases Delimiting.classify fit ends stream with
        ⟨first, _, more, rfl, rfl, -⟩ | isOpen | ⟨rfl, oversized⟩
      · cases (delimits.whole first more (fit first List.mem_cons_self)).symm.trans decoded
      · obtain ⟨_, _, waits, -⟩ := delimits.waits whole isOpen
        cases waits.symm.trans decoded
      · refine ⟨rfl, fun _ => rfl, fun nothing => absurd ?_ oversized.ne_nil⟩
        rw [nothing] at stream
        exact (List.append_eq_nil_iff.1 stream).1
  | @read state next buffer rest octets reads result decoded _ inductionHypothesis =>
      rw [same] at decoded
      refine inductionHypothesis (delimits.goes_on decoded fit ends stream octets) fit ?_
      rw [List.append_assoc]
      exact stream
  | @close state next buffer rest result decoded _ inductionHypothesis =>
      rw [same] at decoded
      have again := delimits.goes_on decoded fit ends stream []
      rw [List.append_nil, List.append_nil] at again
      exact inductionHypothesis again fit stream
  | ended decoded =>
      rw [same] at decoded
      rw [Option.getD_none, List.flatten_nil, List.append_nil] at stream
      obtain ⟨rfl, inside, -⟩ := delimits.last decoded fit stream
      exact ⟨rfl, fun oversized => absurd oversized inside, fun _ => rfl⟩
  | remains nonempty decoded =>
      rw [same] at decoded
      rw [Option.getD_none, List.flatten_nil, List.append_nil] at stream
      obtain ⟨rfl, inside, nothing⟩ := delimits.last decoded fit stream
      exact ⟨rfl, fun oversized => absurd oversized inside,
        fun empty => absurd (nothing empty) nonempty⟩

theorem Frames.result_eq (delimits : codec.Delimits delimiting)
    (framed : codec.Frames reads result) (fit : ∀ frame ∈ frames, delimiting.Fits frame.length)
    (ends : delimiting.Open tail ∨ delimiting.Oversized tail)
    (stream : reads.flatten = frames.flatMap delimiting.written ++ tail) :
    result.1 = frames ∧ (delimiting.Oversized tail → result.2 = some .tooLarge) ∧
      (tail = [] → result.2 = none) := by
  cases reads with
  | nil => exact Framed.result_eq delimits framed rfl fit ends stream
  | cons octets reads => exact Framed.result_eq delimits framed rfl fit ends stream

end Codec

end Streams

section Images

/-- An image is written behind its length. -/
def written (image : Octets) : Octets := Octets.littleEndian 4 image.length ++ image

theorem length_written (image : Octets) : (written image).length = 4 + image.length := by
  rw [written, List.length_append, Octets.length_littleEndian]

/-- These images are whole when their stream is cut off behind so many octets. -/
def wholeImages : (room : Nat) → List Octets → List Octets
  | _, [] => []
  | room, image :: rest =>
      if room < 4 + image.length then []
      else image :: wholeImages (room - (4 + image.length)) rest

theorem wholeImages_subset (room : Nat) (images : List Octets) :
    wholeImages room images ⊆ images := by
  induction images generalizing room with
  | nil => exact List.Subset.refl _
  | cons image others inductionHypothesis =>
      rw [wholeImages]
      split
      · exact List.nil_subset _
      · exact List.cons_subset_cons _ (inductionHypothesis _)

variable {limit : Nat} {images : List Octets}

/-- Behind the whole images, a stream that is cut off ends in an open one. -/
theorem take_flatMap_written
    (fit : ∀ image ∈ images, image.length ≤ limit ∧ image.length < 4294967296) (room : Nat) :
    ∃ tail, (images.flatMap written).take room =
        (wholeImages room images).flatMap written ++ tail ∧
      (Delimiting.images limit).Open tail := by
  induction images generalizing room with
  | nil => exact ⟨[], by rw [List.flatMap_nil, List.take_nil]; rfl, Delimiting.open_nil⟩
  | cons image others inductionHypothesis =>
      obtain ⟨fits, others⟩ := List.forall_mem_cons.1 fit
      have length := length_written image
      rw [List.flatMap_cons, wholeImages]
      by_cases short : room < 4 + image.length
      · rw [if_pos short, List.take_append_of_le_length (by omega)]
        refine ⟨_, rfl, .inr ⟨image, (written image).drop room, fits, ?_,
          (List.take_append_drop room (written image)).symm⟩⟩
        rw [ne_eq, List.drop_eq_nil_iff]
        omega
      · obtain ⟨tail, later, isOpen⟩ := inductionHypothesis others (room - (4 + image.length))
        refine ⟨tail, ?_, isOpen⟩
        rw [if_neg short, List.take_append, List.take_of_length_le (by omega), length, later,
          List.flatMap_cons, List.append_assoc]

end Images

namespace Framing

/-- This codec decodes for the framer. -/
def codec (delimiting : Delimiting) : Codec where
  State := Option Nat
  fresh := none
  decode := decode delimiting

variable (delimiting : Delimiting)

/-- A buffer that waits goes on waiting. -/
theorem decode_of_wait {delimiting : Delimiting} {expected next : Option Nat}
    {buffer rest : Octets} (decoded : decode delimiting expected buffer = .wait next rest) :
    decode delimiting next rest = .wait next rest := by
  have again {length : Nat} {buffer : Octets} (waits : decodeFrame length buffer = .wait next rest) :
      decode delimiting next rest = .wait next rest := by
    unfold decodeFrame at waits
    split at waits
    · cases waits
      exact if_pos ‹_›
    · cases waits
  cases expected with
  | some length => exact again decoded
  | none =>
      simp only [decode] at decoded
      split at decoded
      · cases decoded
        exact if_pos ‹_›
      · split at decoded
        · cases decoded
        · exact again decoded

theorem framed_frames (expected : Option Nat) (buffer : Octets) (reads : List Octets) :
    (codec delimiting).Framed expected buffer (some reads)
      (frames delimiting expected buffer reads) := by
  fun_induction frames delimiting expected buffer reads with
  | case1 _ _ _ _ _ _ decoded _ _ same inductionHypothesis =>
      rw [same] at inductionHypothesis
      exact .frame decoded inductionHypothesis
  | case2 _ _ _ decoded => exact .refused decoded
  | case3 _ _ _ rest decoded =>
      refine .close decoded ?_
      cases rest with
      | nil => exact .ended (decode_of_wait decoded)
      | cons first rest => exact .remains (List.cons_ne_nil first rest) (decode_of_wait decoded)
  | case4 _ _ _ _ decoded _ _ inductionHypothesis => exact .read decoded inductionHypothesis

/-- The framer runs its codec over the reads. -/
theorem frames_framer (reads : List Octets) :
    (codec delimiting).Frames reads (framer delimiting reads) := by
  cases reads with
  | cons octets reads => exact framed_frames delimiting none octets reads
  | nil =>
      have waits : decode delimiting none [] = .wait none [] := if_pos delimiting.width.1
      have nothing : framer delimiting [] = ([], none) := by
        rw [framer, List.headD_nil, List.tail_nil, frames, waits]
        rfl
      rw [nothing]
      exact .ended waits

theorem lengthOf_lengthField {length : Nat} (writable : delimiting.Writable length) :
    delimiting.lengthOf (delimiting.lengthField length) = length := by
  have power : 1 <<< (8 * delimiting.lengthOctets) = 256 ^ delimiting.lengthOctets := by
    rw [Nat.shiftLeft_eq, Nat.one_mul, Nat.pow_mul]
  unfold Delimiting.lengthOf Delimiting.lengthField
  split
  · rw [Octets.ofBigEndian_bigEndian, power, Nat.mod_eq_of_lt writable]
  · rw [Octets.ofLittleEndian_littleEndian, power, Nat.mod_eq_of_lt writable]

theorem decode_lengthField {length : Nat} (writable : delimiting.Writable length)
    (rest : Octets) :
    decode delimiting none (delimiting.lengthField length ++ rest) =
      if delimiting.limit < length then .refused else decodeFrame length rest := by
  have field := delimiting.length_lengthField length
  have present : ¬ (delimiting.lengthField length ++ rest).length < delimiting.lengthOctets := by
    rw [List.length_append]
    omega
  simp only [decode, if_neg present, List.take_left' field, List.drop_left' field,
    lengthOf_lengthField delimiting writable]

theorem delimits_codec : (codec delimiting).Delimits delimiting where
  whole frame rest fits := by
    have present : ¬ (frame ++ rest).length < frame.length := by
      rw [List.length_append]
      omega
    rw [Delimiting.written, List.append_assoc]
    refine (decode_lengthField delimiting fits.2 _).trans ?_
    rw [if_neg (Nat.not_lt.2 fits.1), decodeFrame, if_neg present, List.take_left, List.drop_left]
    rfl
  oversized octets oversized := by
    obtain ⟨length, rest, above, writable, rfl⟩ := oversized
    exact (decode_lengthField delimiting writable rest).trans (if_pos above)
  waits octets isOpen := by
    by_cases short : octets.length < delimiting.lengthOctets
    · exact ⟨none, octets, if_pos short, List.suffix_rfl, fun _ => rfl⟩
    · obtain ⟨frame, more, fits, nonempty, whole⟩ := isOpen.resolve_left short
      have field := delimiting.length_lengthField frame.length
      obtain ⟨part, rfl⟩ : delimiting.lengthField frame.length <+: octets :=
        List.prefix_of_prefix_length_le ⟨frame, whole⟩ ⟨more, rfl⟩ (by omega)
      rw [Delimiting.written, List.append_assoc] at whole
      have split : frame = part ++ more := List.append_cancel_left whole
      have inside : part.length < frame.length := by
        have positive := List.length_pos_iff.2 nonempty
        rw [split, List.length_append]
        omega
      have decoded (behind : Octets) := (decode_lengthField delimiting fits.2 behind).trans
        (if_neg (Nat.not_lt.2 fits.1))
      refine ⟨some frame.length, part, (decoded part).trans (if_pos inside), ⟨_, rfl⟩, ?_⟩
      intro behind
      rw [List.append_assoc]
      exact (decoded (part ++ behind)).symm

end Framing

end Screencast.Grabber
