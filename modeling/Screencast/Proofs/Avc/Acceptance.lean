/-
This file shows that the reader of a parameter set accepts nothing but the syntax: the bits that it
takes are those of some set. So an accepted unit has the size of the formulas, which is no picture
at all when the crop takes the whole of it.
-/

import Screencast.Proofs.Avc.Geometry
import Screencast.Proofs.Avc.Recovery

namespace Screencast.Avc

namespace Sps

/-- The scales that are skipped are those of some differences. -/
theorem exists_scaleBits {count : Nat} {last next writtenLast writtenNext : Int}
    (sameLast : last % 256 = writtenLast % 256) (sameEnd : next = 0 ↔ writtenNext = 0)
    {bits rest : List Bool} {found : Unit}
    (read : skipScales last next count bits = .ok (found, rest)) :
    ∃ deltas : List Signed, deltas.length = count ∧
      bits = scaleBits writtenLast writtenNext deltas ++ rest := by
  induction count generalizing last next writtenLast writtenNext bits with
  | zero =>
      cases read
      exact ⟨[], rfl, rfl⟩
  | succ count inductionHypothesis =>
      rw [skipScales] at read
      split at read
      case isTrue ended =>
        -- Behind the end of a list, no difference is written.
        rw [pure_bind] at read
        have stays : (0 : Int) = 0 ↔ (0 : Int) = 0 := Iff.refl _
        obtain ⟨deltas, length, rfl⟩ := inductionHypothesis sameLast stays read
        refine ⟨⟨0, by decide⟩ :: deltas, congrArg Nat.succ length, ?_⟩
        rw [scaleBits, if_pos (sameEnd.1 ended)]
      case isFalse going =>
        obtain ⟨delta, _, others, rfl⟩ := Signed.recovers.bind read
        rw [pure_bind, Signed.toInt_word] at others
        obtain ⟨sameZero, sameScale⟩ := scale_congr sameLast delta.val
        obtain ⟨deltas, length, rfl⟩ := inductionHypothesis sameScale sameZero others
        refine ⟨delta :: deltas, congrArg Nat.succ length, ?_⟩
        rw [scaleBits, if_neg fun ended => going (sameEnd.2 ended), List.append_assoc]

/-- A list of fewer scales is the beginning of a full one. -/
theorem exists_vector {Element : Type} (size : Nat) (filler : Element) {elements : List Element}
    (few : elements.length ≤ size) :
    ∃ full : Vector Element size, full.toList.take elements.length = elements := by
  have length : (elements ++ List.replicate (size - elements.length) filler).length = size := by
    rw [List.length_append, List.length_replicate]
    omega
  exact ⟨⟨(elements ++ List.replicate (size - elements.length) filler).toArray, length⟩,
    List.take_left⟩

theorem exists_scalingBits {index count : Nat} {bits rest : List Bool} {found : Unit}
    (read : skipScalingLists index count bits = .ok (found, rest)) :
    ∃ lists : List (Option (Vector Signed 64)), lists.length = count ∧
      bits = scalingBits index lists ++ rest := by
  induction count generalizing index bits with
  | zero =>
      cases read
      exact ⟨[], rfl, rfl⟩
  | succ count inductionHypothesis =>
      rw [skipScalingLists] at read
      obtain ⟨present, _, others, rfl⟩ := recovers_bit.bind read
      cases present with
      | false =>
          obtain ⟨lists, length, rfl⟩ := inductionHypothesis others
          exact ⟨none :: lists, congrArg Nat.succ length, rfl⟩
      | true =>
          obtain ⟨_, _, scales, more⟩ := exists_of_bind others
          obtain ⟨deltas, size, rfl⟩ :=
            exists_scaleBits (show (8 : Int) % 256 = 8 % 256 from rfl) (Iff.refl _) scales
          obtain ⟨lists, length, rfl⟩ := inductionHypothesis more
          obtain ⟨full, same⟩ := exists_vector 64 ⟨0, by decide⟩
            (show deltas.length ≤ 64 by split at size <;> omega)
          refine ⟨some full :: lists, congrArg Nat.succ length, ?_⟩
          rw [size] at same
          rw [scalingBits, same]
          simp only [List.append_assoc]

theorem exists_offsets {count : Nat} {bits rest : List Bool} {found : Unit}
    (read : skipOffsets count bits = .ok (found, rest)) :
    ∃ offsets : List Signed, offsets.length = count ∧
      bits = offsets.flatMap Signed.bits ++ rest := by
  induction count generalizing bits with
  | zero =>
      cases read
      exact ⟨[], rfl, rfl⟩
  | succ count inductionHypothesis =>
      obtain ⟨offset, _, others, rfl⟩ := Signed.recovers.bind read
      obtain ⟨offsets, length, rfl⟩ := inductionHypothesis others
      refine ⟨offset :: offsets, congrArg Nat.succ length, ?_⟩
      rw [List.flatMap_cons, List.append_assoc]

theorem PictureOrder.recovers : Recovers skipPictureOrder PictureOrder.bits fun _ => () := by
  apply Recovers.of_reads PictureOrder.reads
  intro bits found rest read
  obtain ⟨order, _, others, rfl⟩ := Unsigned.recovers.bind read
  have same (known : Unsigned) : order.word = known.word ↔ order = known := by
    rw [← UInt32.toNat_inj, Unsigned.toNat_word, Unsigned.toNat_word, Fin.ext_iff]
  have zero : order.word = 0 ↔ order = 0 := same 0
  have one : order.word = 1 ↔ order = 1 := same 1
  have two : order.word = 2 ↔ order = 2 := same 2
  split at others
  case isTrue coded =>
    obtain ⟨number, _, last, rfl⟩ := Unsigned.recovers.bind others
    cases last
    refine ⟨.coded number, ?_⟩
    rw [zero.1 coded, PictureOrder.bits, List.append_assoc]
  case isFalse =>
    split at others
    case isTrue cyclic =>
      obtain ⟨flag, _, others, _⟩ := recovers_bit.bind others
      obtain ⟨nonReference, _, others, _⟩ := Signed.recovers.bind others
      obtain ⟨bottom, _, others, _⟩ := Signed.recovers.bind others
      obtain ⟨cycle, _, others, _⟩ := Unsigned.recovers.bind others
      split at others
      case isTrue long =>
        obtain ⟨_, _, thrown, -⟩ := exists_of_bind others
        cases thrown
      case isFalse short =>
        rw [UInt32.lt_iff_toNat_lt, Unsigned.toNat_word] at short
        rw [Unsigned.toNat_word] at others
        obtain ⟨offsets, length, _⟩ := exists_offsets others
        subst_vars
        refine ⟨.cycle flag nonReference bottom offsets (length ▸ Nat.not_lt.1 short), ?_⟩
        have counted : (⟨offsets.length, by omega⟩ : Unsigned) = cycle := Fin.ext length
        rw [one.1 cyclic, PictureOrder.bits, counted]
        simp only [List.append_assoc]
    case isFalse =>
      split at others
      case isTrue => cases others
      case isFalse output =>
        cases others
        refine ⟨.output, ?_⟩
        rw [two.1 (Decidable.not_not.1 output), PictureOrder.bits]

namespace HighElements

/-- The depths and the scaling lists are those of some elements with this format. -/
theorem exists_depths {Result : Type} {result found : Result} {count : Nat} (few : count ≤ 12)
    {bits rest : List Bool}
    (read : (do
        let _ ← readUnsigned
        let _ ← readUnsigned
        let _ ← readBit
        if ← readBit then skipScalingLists 0 count
        return result : BitReader Result) bits = .ok (found, rest)) :
    ∃ (lumaDepth chromaDepth : Unsigned) (bypass : Bool)
      (scaling? : Option (Vector (Option (Vector Signed 64)) 12)),
      bits = lumaDepth.bits ++ (chromaDepth.bits ++ ([bypass] ++
        (match scaling? with
        | none => [false]
        | some lists => [true] ++ scalingBits 0 (lists.toList.take count)))) ++ rest := by
  obtain ⟨lumaDepth, _, others, _⟩ := Unsigned.recovers.bind read
  obtain ⟨chromaDepth, _, others, _⟩ := Unsigned.recovers.bind others
  obtain ⟨bypass, _, others, _⟩ := recovers_bit.bind others
  obtain ⟨scaled, _, others, _⟩ := recovers_bit.bind others
  refine ⟨lumaDepth, chromaDepth, bypass, ?_⟩
  cases scaled with
  | false =>
      cases others
      subst_vars
      exact ⟨none, by simp only [List.append_assoc]⟩
  | true =>
      obtain ⟨_, _, scales, last⟩ := exists_of_bind others
      cases last
      obtain ⟨lists, length, _⟩ := exists_scalingBits scales
      obtain ⟨full, same⟩ := exists_vector 12 none (length ▸ few)
      rw [length] at same
      subst_vars
      exact ⟨some full, by simp only [List.append_assoc, same]⟩

theorem recovers :
    Recovers readChroma HighElements.bits
      fun high => (Unsigned.word (high.format.castLE (by decide)), high.separates) := by
  apply Recovers.of_reads HighElements.reads
  intro bits found rest read
  obtain ⟨number, _, others, rfl⟩ := Unsigned.recovers.bind read
  dsimp only at others
  split at others
  case isTrue =>
    obtain ⟨_, _, thrown, -⟩ := exists_of_bind others
    cases thrown
  case isFalse known =>
    rw [UInt32.lt_iff_toNat_lt, Unsigned.toNat_word] at known
    have full : number.word = 3 ↔ number.val = 3 := by
      rw [← UInt32.toNat_inj, Unsigned.toNat_word]
      rfl
    have inside : number.val < 4 := Nat.lt_succ_of_le (Nat.not_lt.1 known)
    split at others
    case isTrue planar =>
      obtain ⟨separate, _, depths, rfl⟩ := recovers_bit.bind others
      obtain ⟨lumaDepth, chromaDepth, bypass, scaling?, rfl⟩ := exists_depths (by decide) depths
      refine ⟨⟨3, separate, lumaDepth, chromaDepth, bypass, scaling?⟩, ?_⟩
      have format : number = 3 := Fin.ext (full.1 planar)
      rw [HighElements.bits, HighElements.lists, if_pos rfl, if_pos rfl, format]
      simp only [List.append_assoc]
      rfl
    case isFalse joined =>
      rw [pure_bind] at others
      obtain ⟨lumaDepth, chromaDepth, bypass, scaling?, rfl⟩ := exists_depths (by decide) others
      refine ⟨⟨⟨number.val, inside⟩, false, lumaDepth, chromaDepth, bypass, scaling?⟩, ?_⟩
      have other : ¬(⟨number.val, inside⟩ : Fin 4) = 3 := fun same =>
        joined (full.2 (Fin.ext_iff.1 same))
      rw [HighElements.bits, HighElements.lists, if_neg other, if_neg other]
      simp only [List.append_assoc, List.nil_append]
      rfl

end HighElements

theorem recovers_crop :
    Recovers readCrop cropBits fun crop? => (crop?.getD {}).crop := by
  apply Recovers.of_reads reads_crop
  intro bits found rest read
  obtain ⟨present, _, others, _⟩ := recovers_bit.bind read
  cases present with
  | false =>
      cases others
      subst_vars
      exact ⟨none, rfl⟩
  | true =>
      obtain ⟨left, _, others, _⟩ := Unsigned.recovers.bind others
      obtain ⟨right, _, others, _⟩ := Unsigned.recovers.bind others
      obtain ⟨top, _, others, _⟩ := Unsigned.recovers.bind others
      obtain ⟨bottom, _, others, _⟩ := Unsigned.recovers.bind others
      cases others
      subst_vars
      refine ⟨some { left, right, top, bottom }, ?_⟩
      rw [cropBits]
      simp only [List.append_assoc]

namespace Elements

/-- What follows has read the bits of a high profile, or none for another profile. -/
theorem exists_chroma {Result : Type} {profile : UInt8}
    {next : UInt32 × Bool → BitReader Result} {bits rest : List Bool} {result : Result}
    (found : (if profile ∈ highProfiles then readChroma >>= next else pure (1, false) >>= next)
      bits = .ok (result, rest)) :
    ∃ (high : HighElements) (chroma : UInt32 × Bool) (behind : List Bool),
      next chroma behind = .ok (result, rest) ∧
        bits = (if profile ∈ highProfiles then high.bits else []) ++ behind := by
  split at found
  case isTrue high =>
    obtain ⟨elements, behind, others, rfl⟩ := HighElements.recovers.bind found
    exact ⟨elements, _, behind, others, by rw [if_pos high]⟩
  case isFalse low =>
    -- Another profile writes none of these.
    let unwritten : HighElements :=
      { format := 1, separate := false, lumaDepth := 0, chromaDepth := 0, bypass := false
        scaling? := none }
    exact ⟨unwritten, _, bits, found, by rw [if_neg low, List.nil_append]⟩

/-- What follows has read whether there are frames only. -/
theorem exists_fields {Result : Type} {next : Bool → BitReader Result} {bits rest : List Bool}
    {result : Result}
    (found : (readBit >>= fun framesOnly =>
      if (!framesOnly) = true then readBit >>= fun _ => next framesOnly else next framesOnly)
      bits = .ok (result, rest)) :
    ∃ adaptive? behind, next adaptive?.isNone behind = .ok (result, rest) ∧
      bits = fieldBits adaptive? ++ behind := by
  obtain ⟨framesOnly, _, others, spelled⟩ := recovers_bit.bind found
  cases framesOnly with
  | true => exact ⟨none, _, others, spelled⟩
  | false =>
      obtain ⟨adaptive, behind, others, _⟩ := recovers_bit.bind others
      subst_vars
      exact ⟨some adaptive, behind, others, rfl⟩

/-- What the reader accepts was written for some set. -/
theorem exists_of_read {bits rest : List Bool} {sps : Sps} (found : read bits = .ok (sps, rest)) :
    ∃ set : Elements, bits = set.bits ++ rest := by
  obtain ⟨profile, _, found, _⟩ := recovers_octet.bind found
  obtain ⟨constraints, _, found, _⟩ := recovers_octet.bind found
  obtain ⟨level, _, found, _⟩ := recovers_octet.bind found
  obtain ⟨identifier, _, found, _⟩ := Unsigned.recovers.bind found
  simp only [UInt8.toUInt8_toUInt32] at found
  obtain ⟨high, _, _, found, _⟩ := exists_chroma found
  obtain ⟨frameNumberBits, _, found, _⟩ := Unsigned.recovers.bind found
  obtain ⟨order, _, found, _⟩ := PictureOrder.recovers.bind found
  obtain ⟨references, _, found, _⟩ := Unsigned.recovers.bind found
  obtain ⟨gaps, _, found, _⟩ := recovers_bit.bind found
  obtain ⟨widthMacroblocks, _, found, _⟩ := Unsigned.recovers.bind found
  obtain ⟨heightUnits, _, found, _⟩ := Unsigned.recovers.bind found
  obtain ⟨adaptive?, _, found, _⟩ := exists_fields found
  obtain ⟨inference, _, found, _⟩ := recovers_bit.bind found
  obtain ⟨crop?, _, found, _⟩ := recovers_crop.bind found
  obtain ⟨size, behind, sized, last⟩ := exists_of_bind found
  cases last
  have same := rest_of_lift sized
  subst_vars
  refine ⟨⟨profile, constraints, level, identifier, high, frameNumberBits, order, references, gaps,
    widthMacroblocks, heightUnits, adaptive?, inference, crop?⟩, ?_⟩
  rw [bits]
  simp only [List.append_assoc]

end Elements

/-- A size that is accepted is the exact one. -/
theorem toNat_of_exactSize {width height : Int} {size : UInt32 × UInt32}
    (sized : exactSize width height = .ok size) :
    (size.1.toNat : Int) = width ∧ (size.2.toNat : Int) = height := by
  have inside : (0 ≤ width ∧ width < 4294967296) ∧ 0 ≤ height ∧ height < 4294967296 := by
    rw [exactSize] at sized
    split at sized
    case isTrue => cases sized
    case isFalse =>
      split at sized
      case isTrue => cases sized
      case isFalse =>
        split at sized
        case isTrue => cases sized
        case isFalse => omega
  obtain ⟨exact, same, width, height⟩ :=
    exactSize_of_fits inside.1.1 inside.1.2 inside.2.1 inside.2.2
  rw [same] at sized
  cases sized
  exact ⟨width, height⟩

/-- An accepted unit holds the bits of some set and has the size of that set. -/
theorem exists_elements_of_parse {unit : Octets} {sps : Sps} (parsed : parse unit = .ok sps) :
    ∃ set : Elements, set.bits <+: bits (stripEmulation unit.tail) ∧
      (sps.width.toNat : Int) = set.croppedWidth ∧
      (sps.height.toNat : Int) = set.croppedHeight := by
  rw [parse.eq_def] at parsed
  split at parsed
  case h_2 => cases parsed
  case h_1 header profile constraints level rest =>
    split at parsed
    case isTrue => cases parsed
    case isFalse =>
      rw [List.tail_cons]
      dsimp only [StateT.run] at parsed
      generalize bits (stripEmulation (profile :: constraints :: level :: rest)) = body at parsed ⊢
      cases found : read body with
      | error fault =>
          rw [found] at parsed
          cases parsed
      | ok pair =>
          obtain ⟨set, rfl⟩ := Elements.exists_of_read found
          have exact := set.read_exact pair.2
          rw [found] at exact parsed
          cases parsed
          cases sized : exactSize set.croppedWidth set.croppedHeight with
          | error fault =>
              rw [sized] at exact
              cases exact
          | ok size =>
              rw [sized] at exact
              obtain ⟨described, -⟩ := Prod.mk.inj (Except.ok.inj exact)
              rw [described]
              exact ⟨set, List.prefix_append _ _, toNat_of_exactSize sized⟩

/-- An accepted unit shows something if and only if the crop of its set takes less than the picture
in both directions. A crop that takes just the picture is accepted nevertheless. -/
theorem parse_visible_iff {unit : Octets} {sps : Sps} (parsed : parse unit = .ok sps) :
    ∃ set : Elements, set.bits <+: bits (stripEmulation unit.tail) ∧
      (sps.width.toNat : Int) = set.croppedWidth ∧
      (sps.height.toNat : Int) = set.croppedHeight ∧
      (1 ≤ sps.width ∧ 1 ≤ sps.height ↔
        (set.margins.left.val + set.margins.right.val) * set.units.1 <
            16 * (set.widthMacroblocks.val + 1) ∧
          (set.margins.top.val + set.margins.bottom.val) * set.units.2 <
            set.fields * (16 * (set.heightUnits.val + 1))) := by
  obtain ⟨set, written, width, height⟩ := exists_elements_of_parse parsed
  refine ⟨set, written, width, height, ?_⟩
  have shown {side full cut : Nat} (difference : (side : Int) = full - cut) :
      1 ≤ side ↔ cut < full := by omega
  apply and_congr
  · rw [UInt32.le_iff_toNat_le]
    apply shown
    rw [width, Elements.croppedWidth]
    push_cast
    rfl
  · rw [UInt32.le_iff_toNat_le]
    apply shown
    rw [height, Elements.croppedHeight]
    push_cast
    rfl

/-- Half of a small picture is left. -/
theorem parse_visible_iff_half :
    let unit : Octets := [0x67, 0x42, 0x00, 0x1F, 0xDD, 0xF2, 0xF8]
    ∃ sps, parse unit = .ok sps ∧ (1 ≤ sps.width ∧ 1 ≤ sps.height) ∧
      ∃ set : Elements, set.bits <+: bits (stripEmulation unit.tail) ∧
        (set.margins.left.val + set.margins.right.val) * set.units.1 <
          16 * (set.widthMacroblocks.val + 1) := by
  intro unit
  let sps : Sps :=
    { profile := 66, constraints := 0, level := 31, chromaFormat := 1, separatePlanes := false
      framesOnly := true, width := 8, height := 16 }
  have parsed : parse unit = .ok sps := rfl
  have shown : 1 ≤ sps.width ∧ 1 ≤ sps.height := by decide
  obtain ⟨set, written, -, -, visible⟩ := parse_visible_iff parsed
  exact ⟨sps, parsed, shown, set, written, (visible.1 shown).1⟩

/-- A crop of eight units of two samples takes a whole row of 16, and the unit is accepted. -/
theorem parse_nothing_left :
    let unit : Octets := [0x67, 0x42, 0x00, 0x1F, 0xDD, 0xF1, 0x3E]
    ∃ sps, parse unit = .ok sps ∧ ¬(1 ≤ sps.width ∧ 1 ≤ sps.height) := by
  intro unit
  let sps : Sps :=
    { profile := 66, constraints := 0, level := 31, chromaFormat := 1, separatePlanes := false
      framesOnly := true, width := 0, height := 16 }
  have parsed : parse unit = .ok sps := rfl
  exact ⟨sps, parsed, by decide⟩

end Sps

end Screencast.Avc
