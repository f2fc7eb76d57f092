/-
This file finds the start codes that separate the units of an H.264 byte stream.
-/

import Screencast.Octets

namespace Screencast

/-- A start code is two or three zero octets and a one. -/
inductive StartCode
  | short
  | long
  deriving DecidableEq, Repr

namespace StartCode

def octets : StartCode → Octets
  | .short => [0, 0, 1]
  | .long => [0, 0, 0, 1]

def length (code : StartCode) : Nat := code.octets.length

/-- The long code is tried first, because the short code is its tail. -/
def atStart? (stream : Octets) : Option StartCode :=
  if StartCode.long.octets.isPrefixOf stream then some .long
  else if StartCode.short.octets.isPrefixOf stream then some .short
  else none

/-- The search compares three octets at a time. A third octet above one belongs to no start code,
so the search then goes on behind it. -/
def search (offset : Nat) : Octets → Option Nat
  | first :: second :: third :: rest =>
      if 1 < third then search (offset + 3) rest
      else if first = 0 ∧ second = 0 ∧ third = 1 then some offset
      else search (offset + 1) (second :: third :: rest)
  | _ => none

/-- This finds the first start code at or after `start`. A zero octet before a short code makes it
a long one when that octet lies at or after `floor`. -/
def find? (stream : Octets) (start floor : Nat) : Option Nat :=
  (search start (stream.drop start)).map fun offset =>
    if floor < offset ∧ stream[offset - 1]? = some 0 then offset - 1 else offset

theorem search_bounds {offset position : Nat} {stream : Octets}
    (found : search offset stream = some position) :
    offset ≤ position ∧ position + 3 ≤ offset + stream.length := by
  fun_induction search offset stream with
  | case1 offset first second third rest above inductionHypothesis =>
      have bounds := inductionHypothesis found
      simp only [List.length_cons]
      omega
  | case2 offset first second third rest below isCode =>
      simp only [Option.some.injEq] at found
      simp only [List.length_cons]
      omega
  | case3 offset first second third rest below noCode inductionHypothesis =>
      have bounds := inductionHypothesis found
      simp only [List.length_cons] at bounds ⊢
      omega
  | case4 => cases found

theorem find?_bounds {stream : Octets} {start floor position : Nat} (ordered : floor ≤ start)
    (found : find? stream start floor = some position) :
    floor ≤ position ∧ position < stream.length := by
  obtain ⟨offset, searched, rfl⟩ := Option.map_eq_some_iff.1 found
  have bounds := search_bounds searched
  rw [List.length_drop] at bounds
  split <;> omega

end StartCode

end Screencast
