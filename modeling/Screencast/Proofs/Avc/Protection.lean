/-
This file describes the encoders that keep start codes out of a unit by emulation prevention octets.
Removing these octets gives the data of every such unit back.
-/

import Mathlib.Data.List.Induction
import Screencast.Avc.Sps

namespace Screencast.Avc

/-- Behind two zero octets, an octet up to three gets a three in front. -/
def protectNext (output : Octets) (octet : UInt8) : Octets :=
  if [0, 0] <:+ output ∧ octet ≤ 3 then output ++ [3, octet] else output ++ [octet]

/-- A three also closes a unit that would end in two zero octets. -/
def protect (data : Octets) : Octets :=
  let output := data.foldl protectNext []
  if [0, 0] <:+ output then output ++ [3] else output

/-- An encoder may put a three behind any two zero octets. It has to where the next octet of the data
is at most three. -/
inductive Encodes : (data unit : Octets) → Prop
  | empty : Encodes [] []
  | octet {data unit : Octets} {octet : UInt8} (written : Encodes data unit)
      (safe : ¬([0, 0] <:+ unit ∧ octet ≤ 3)) : Encodes (data ++ [octet]) (unit ++ [octet])
  | three {data unit : Octets} (written : Encodes data unit) (zeros : [0, 0] <:+ unit) :
      Encodes data (unit ++ [3])

/-- What stands in front of an octet other than zero does not matter behind it. -/
theorem zeros_suffix_iff {octet : UInt8} (nonzero : octet ≠ 0) (front back : Octets) :
    [0, 0] <:+ front ++ octet :: back ↔ [0, 0] <:+ back := by
  constructor
  · intro zeros
    rcases List.suffix_or_suffix_of_suffix zeros (List.suffix_append front (octet :: back))
      with short | long
    · rcases List.suffix_cons_iff.1 short with whole | behind
      · exact absurd (List.cons.inj whole).1.symm nonzero
      · exact behind
    · have zero := long.subset List.mem_cons_self
      simp [nonzero] at zero
  · intro zeros
    exact (zeros.trans (List.suffix_cons octet back)).trans (List.suffix_append front _)

theorem encodes_foldl (data : Octets) : Encodes data (data.foldl protectNext []) := by
  induction data using List.reverseRecOn with
  | nil => exact .empty
  | append_singleton data octet inductionHypothesis =>
      rw [List.foldl_append, List.foldl_cons, List.foldl_nil, protectNext]
      split
      case isTrue endangered =>
        -- Behind the three that was put in, the octet itself is safe.
        have three := Encodes.three inductionHypothesis endangered.1
        have safe : ¬([0, 0] <:+ data.foldl protectNext [] ++ [3] ∧ octet ≤ 3) := by
          rw [zeros_suffix_iff (by decide)]
          simp
        have both := Encodes.octet three safe
        rwa [List.append_assoc] at both
      case isFalse safe => exact .octet inductionHypothesis safe

theorem encodes_protect (data : Octets) : Encodes data (protect data) := by
  rw [protect]
  split
  case isTrue zeros => exact .three (encodes_foldl data) zeros
  case isFalse => exact encodes_foldl data

/-- One more octet is removed or stays, as the octets in front of it say. -/
theorem stripFrom_snoc (zeros : Nat) (front : Octets) (octet : UInt8) :
    stripFrom zeros (front ++ [octet]) = stripFrom zeros front ++
      if [0, 0] <:+ List.replicate zeros 0 ++ front ∧ octet = 3 then [] else [octet] := by
  induction front generalizing zeros with
  | nil =>
      have many : [0, 0] <:+ List.replicate zeros (0 : UInt8) ++ [] ↔ 2 ≤ zeros := by
        rw [List.append_nil, List.suffix_replicate_iff]
        simp
      simp only [List.nil_append, stripFrom, many]
  | cons first front inductionHypothesis =>
      rw [List.cons_append, stripFrom, stripFrom]
      split
      case isTrue removed =>
        have nonzero : first ≠ 0 := by rw [removed.2]; decide
        simp only [inductionHypothesis, zeros_suffix_iff nonzero, List.replicate_zero,
          List.nil_append]
      case isFalse kept =>
        rw [inductionHypothesis, List.cons_append]
        by_cases zero : first = 0
        · rw [if_pos zero, zero, List.replicate_succ', List.append_assoc, List.singleton_append]
        · simp only [if_neg zero, zeros_suffix_iff zero, List.replicate_zero, List.nil_append]

theorem stripEmulation_snoc (front : Octets) (octet : UInt8) :
    stripEmulation (front ++ [octet]) = stripEmulation front ++
      if [0, 0] <:+ front ∧ octet = 3 then [] else [octet] :=
  stripFrom_snoc 0 front octet

/-- The octets that an encoder put in are removed again, and no others. -/
theorem Encodes.stripped {data unit : Octets} (written : Encodes data unit) :
    stripEmulation unit = data := by
  induction written with
  | empty => rfl
  | octet written safe inductionHypothesis =>
      rw [stripEmulation_snoc, inductionHypothesis, if_neg]
      rintro ⟨zeros, rfl⟩
      exact safe ⟨zeros, UInt8.le_refl 3⟩
  | three written zeros inductionHypothesis =>
      rw [stripEmulation_snoc, inductionHypothesis, if_pos ⟨zeros, rfl⟩, List.append_nil]

theorem stripEmulation_of_absent {data : Octets} (absent : ¬[0, 0, 3] <:+: data) :
    stripEmulation data = data := by
  induction data using List.reverseRecOn with
  | nil => rfl
  | append_singleton data octet inductionHypothesis =>
      have before : ¬[0, 0, 3] <:+: data := fun present =>
        absent (present.trans (List.prefix_append data [octet]).isInfix)
      rw [stripEmulation_snoc, inductionHypothesis before, if_neg]
      rintro ⟨⟨front, rfl⟩, rfl⟩
      exact absent ⟨front, [], by simp⟩

namespace Sps

/-- Less than three octets are too few for profile, constraints and level. -/
theorem read_of_short {octets : Octets} (short : octets.length < 3) :
    (read.run (bits octets)).map Prod.fst = .error .truncatedSps := by
  rcases octets with _ | ⟨first, _ | ⟨second, _ | ⟨third, rest⟩⟩⟩
  · rfl
  · rfl
  · rfl
  · simp only [List.length_cons] at short
    omega

/-- A set is read from the data behind its header. -/
theorem parse_cons {header : UInt8} (isSet : Nal.typeOf header = Nal.Kind.sps.code)
    (body : Octets) :
    parse (header :: body) = (read.run (bits (stripEmulation body))).map Prod.fst := by
  by_cases short : body.length < 3
  · have absent : ¬[0, 0, 3] <:+: body := fun present =>
      absurd present.length_le (Nat.not_le.2 short)
    rw [stripEmulation_of_absent absent, read_of_short short]
    rcases body with _ | ⟨first, _ | ⟨second, _ | ⟨third, rest⟩⟩⟩
    · rfl
    · rfl
    · rfl
    · simp only [List.length_cons] at short
      omega
  · rcases body with _ | ⟨first, _ | ⟨second, _ | ⟨third, rest⟩⟩⟩
    · exact absurd (by decide : 0 < 3) short
    · exact absurd (by decide : 1 < 3) short
    · exact absurd (by decide : 2 < 3) short
    · rw [parse, if_neg (not_not_intro isSet)]

end Sps

/-- Removing the emulation prevention octets inverts the protection. It leaves data alone that
contains none, and a set is read the same whichever encoder wrote it. -/
theorem stripEmulation_protect (data : Octets) :
    stripEmulation (protect data) = data ∧
      (¬[0, 0, 3] <:+: data → stripEmulation data = data) ∧
      Encodes data (protect data) ∧
      ∀ header unit, Nal.typeOf header = Nal.Kind.sps.code → Encodes data unit →
        Sps.parse (header :: unit) = (Sps.read.run (bits data)).map Prod.fst := by
  refine ⟨(encodes_protect data).stripped, stripEmulation_of_absent, encodes_protect data, ?_⟩
  intro header unit isSet written
  rw [Sps.parse_cons isSet, written.stripped]

/-- This set needs one octet of protection. -/
theorem stripEmulation_protect_set :
    let data : Octets := [0x4D, 0x40, 0x1F, 0xD0, 0x00, 0x03, 0x78, 0x00, 0x00, 0x01, 0xBC, 0x01,
      0x40, 0x00, 0x1B, 0xC0, 0x02, 0x80, 0xA0, 0x0B, 0x7F, 0xA0]
    let unit : Octets := [0x4D, 0x40, 0x1F, 0xD0, 0x00, 0x03, 0x78, 0x00, 0x00, 0x03, 0x01, 0xBC,
      0x01, 0x40, 0x00, 0x1B, 0xC0, 0x02, 0x80, 0xA0, 0x0B, 0x7F, 0xA0]
    let set : Sps :=
      { profile := 77, constraints := 64, level := 31, chromaFormat := 1, separatePlanes := false
        framesOnly := true, width := 1280, height := 720 }
    ¬[0, 0, 3] <:+: data ∧ Nal.typeOf 0x67 = Nal.Kind.sps.code ∧ Encodes data unit ∧
      protect data = unit ∧ stripEmulation unit = data ∧ stripEmulation data = data ∧
      Sps.parse (0x67 :: unit) = .ok set := by
  intro data unit set
  have absent : ¬[0, 0, 3] <:+: data := by decide +kernel
  have spelled : protect data = unit := by decide +kernel
  obtain ⟨removed, kept, written, parsed⟩ := stripEmulation_protect data
  rw [spelled] at removed written
  exact ⟨absent, rfl, written, spelled, removed, kept absent,
    (parsed 0x67 unit rfl written).trans rfl⟩

end Screencast.Avc
