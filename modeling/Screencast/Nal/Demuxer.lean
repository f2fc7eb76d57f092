/-
This file splits an H.264 byte stream into units, however the stream is divided into chunks.
-/

import Screencast.Nal.Basic

namespace Screencast

/-- The demuxer holds the unit that is still open. -/
structure Demuxer where
  /-- A synced buffer begins with the start code of the open unit. -/
  buffer : Octets := []
  synced : Bool := false
  /-- No start code begins before this offset, the one at the front apart. -/
  scanned : Nat := 0
  deriving DecidableEq, Repr

namespace Demuxer

/-- The header of the open unit follows its start code. -/
def headerOffset (buffer : Octets) : Nat :=
  ((StartCode.atStart? buffer).map StartCode.length).getD 3

theorem headerOffset_pos (buffer : Octets) : 0 < headerOffset buffer := by
  unfold headerOffset
  cases StartCode.atStart? buffer with
  | none => decide
  | some code => cases code <;> decide

/-- This cuts off every unit whose end a later start code shows. -/
def cut (buffer : Octets) (scanned : Nat) : List Nal × Demuxer :=
  let header := headerOffset buffer
  match found : StartCode.find? buffer (max scanned header) header with
  | none => ([], ⟨buffer, true, max (buffer.length - 3) header⟩)
  | some next =>
      let (units, rest) := cut (buffer.drop next) 0
      ((Nal.ofData? (buffer.take next)).toList ++ units, rest)
termination_by buffer.length
decreasing_by
  have bounds := StartCode.find?_bounds (Nat.le_max_right scanned header) found
  have positive := headerOffset_pos buffer
  rw [List.length_drop]
  omega

/-- Octets before the first start code belong to no unit. Three of them may begin a start code. -/
def feed (demuxer : Demuxer) (chunk : Octets) : List Nal × Demuxer :=
  let buffer := demuxer.buffer ++ chunk
  if demuxer.synced then cut buffer demuxer.scanned
  else
    match StartCode.find? buffer 0 0 with
    | some position => cut (buffer.drop position) 0
    | none => ([], { demuxer with buffer := buffer.drop (buffer.length - 3) })

/-- A demuxer that drops what it holds starts over. -/
def reset (_demuxer : Demuxer) : Demuxer := {}

/-- The end of the stream ends the open unit. -/
def flush (demuxer : Demuxer) : Option Nal × Demuxer :=
  (if demuxer.synced then Nal.ofData? demuxer.buffer else none, demuxer.reset)

/-- This is the number of octets that wait for a start code. -/
def pending (demuxer : Demuxer) : Nat := demuxer.buffer.length

/-- The chunks are fed in their order. -/
def feedAll (demuxer : Demuxer) : List Octets → List Nal × Demuxer
  | [] => ([], demuxer)
  | chunk :: rest =>
      let (units, demuxer) := demuxer.feed chunk
      let (more, demuxer) := demuxer.feedAll rest
      (units ++ more, demuxer)

end Demuxer

/-- This splits a complete stream into its units. -/
def Nal.split (stream : Octets) : List Nal :=
  let (units, demuxer) := ({} : Demuxer).feed stream
  units ++ demuxer.flush.1.toList

end Screencast
