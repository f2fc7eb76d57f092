/-
This file cuts a grabber's stream into images. Each image follows its length, a 32-bit number with
the least octet first.
-/

import Screencast.Octets

namespace Screencast.Grabber

/-- These break a stream of images. -/
inductive FramingDefect
  | tooLarge
  | remainder
  deriving DecidableEq, Repr

def FramingDefect.text : FramingDefect → String
  | .tooLarge => "frame size too big"
  | .remainder => "bytes remaining on stream"

/-- Frames are delimited by the lengths in front of them. -/
structure Delimiting where
  bigEndian : Bool := true
  lengthOctets : Nat := 4
  /-- A frame above the limit is refused. -/
  limit : Nat := 8388608
  width : 0 < lengthOctets ∧ lengthOctets ≤ 8 := by decide
  deriving DecidableEq, Repr

namespace Delimiting

/-- This is how images are delimited. -/
def images (limit : Nat) : Delimiting := { bigEndian := false, lengthOctets := 4, limit }

/-- This is the number that the octets of a length spell. -/
def lengthOf (delimiting : Delimiting) (field : Octets) : Nat :=
  if delimiting.bigEndian then Octets.ofBigEndian field else Octets.ofLittleEndian field

end Delimiting

/-- A framer cuts a stream of reads into frames. The stream ends cleanly or with a defect. -/
abbrev Framer := Delimiting → List Octets → List Octets × Option FramingDefect

/-- A decoder takes a frame off its buffer, waits for more octets or refuses the frame. -/
inductive Decoded (State : Type)
  | frame (frame : Octets) (state : State) (rest : Octets)
  | wait (state : State) (rest : Octets)
  | refused

/-- A framing holds the octets of the open frame, whose length may be known already. -/
structure Framing where
  buffer : Octets := []
  expected : Option Nat := none
  deriving DecidableEq, Repr

namespace Framing

/-- A frame of known length is whole when so many octets are there. -/
def decodeFrame (length : Nat) (buffer : Octets) : Decoded (Option Nat) :=
  if buffer.length < length then .wait (some length) buffer
  else .frame (buffer.take length) none (buffer.drop length)

/-- The length in front of a frame is read once. -/
def decode (delimiting : Delimiting) (expected : Option Nat) (buffer : Octets) :
    Decoded (Option Nat) :=
  match expected with
  | some length => decodeFrame length buffer
  | none =>
      if buffer.length < delimiting.lengthOctets then .wait none buffer
      else
        let length := delimiting.lengthOf (buffer.take delimiting.lengthOctets)
        if delimiting.limit < length then .refused
        else decodeFrame length (buffer.drop delimiting.lengthOctets)

theorem decodeFrame_eq_frame {length : Nat} {buffer frame rest : Octets} {next : Option Nat}
    (decoded : decodeFrame length buffer = .frame frame next rest) :
    next = none ∧ rest.length ≤ buffer.length := by
  unfold decodeFrame at decoded
  split at decoded
  · cases decoded
  · cases decoded
    exact ⟨rfl, List.length_drop ▸ Nat.sub_le ..⟩

/-- A frame of unknown length takes at least its length off the buffer. -/
theorem decode_shrinks {delimiting : Delimiting} {expected next : Option Nat}
    {buffer frame rest : Octets}
    (decoded : decode delimiting expected buffer = .frame frame next rest) :
    2 * rest.length + next.toList.length < 2 * buffer.length + expected.toList.length := by
  cases expected with
  | some length =>
      obtain ⟨rfl, shorter⟩ := decodeFrame_eq_frame decoded
      simp only [Option.toList_none, Option.toList_some, List.length_nil, List.length_singleton]
      omega
  | none =>
      simp only [decode] at decoded
      split at decoded
      · cases decoded
      split at decoded
      · cases decoded
      obtain ⟨rfl, shorter⟩ := decodeFrame_eq_frame decoded
      have width := delimiting.width
      rw [List.length_drop] at shorter
      simp only [Option.toList_none, List.length_nil]
      omega

/-- All frames are taken off the buffer before the next read. A stream may end between frames, and
also right behind a length. -/
def frames (delimiting : Delimiting) (expected : Option Nat) (buffer : Octets)
    (reads : List Octets) : List Octets × Option FramingDefect :=
  match _ : decode delimiting expected buffer with
  | .frame frame next rest =>
      let (others, defect) := frames delimiting next rest reads
      (frame :: others, defect)
  | .refused => ([], some .tooLarge)
  | .wait next rest =>
      match reads with
      | [] => ([], if rest.isEmpty then none else some .remainder)
      | read :: reads => frames delimiting next (rest ++ read) reads
termination_by (reads.length, 2 * buffer.length + expected.toList.length)
decreasing_by
  · exact Prod.Lex.right _ (decode_shrinks ‹_›)
  · exact Prod.Lex.left _ _ (Nat.lt_succ_self _)

/-- The first octets are read before anything is decoded. -/
def run (limit : Nat) (framing : Framing) (reads : List Octets) :
    List Octets × Option FramingDefect :=
  frames (.images limit) framing.expected (framing.buffer ++ reads.headD []) reads.tail

/-- This framer decodes the reads from a fresh state. -/
def framer : Framer := fun delimiting reads => frames delimiting none (reads.headD []) reads.tail

end Framing

end Screencast.Grabber
