/-
This file shows that the reader of a parameter set gives the exact size of the picture, and that its
machine integers never wrap on the way.
-/

import Screencast.Proofs.Avc.Elements
import Screencast.Proofs.Avc.Escaping

namespace Screencast.Avc.Sps

/-- The chroma planes have one sample for so many samples of luma, in a row and in a column. -/
def subsampling : (format : Nat) → Nat × Nat
  | 1 => (2, 2)
  | 2 => (2, 1)
  | _ => (1, 1)

/-- This is the unit of a crop in each direction. Separate planes crop as a grey picture does. -/
def exactUnits (format : Nat) (separate : Bool) (fields : Nat) : Nat × Nat :=
  let arrayType := if separate then 0 else format
  if arrayType = 0 then (1, fields)
  else ((subsampling arrayType).1, (subsampling arrayType).2 * fields)

theorem cropUnits_eq (format : Fin 4) (separate framesOnly : Bool) :
    let units := cropUnits (Unsigned.word (format.castLE (by decide))) separate
      (if framesOnly then 1 else 2)
    (units.1.toNat, units.2.toNat) =
      exactUnits format.val separate (if framesOnly then 1 else 2) := by
  revert format separate framesOnly
  decide

/-- A size is refused by the first rule that it breaks. -/
def exactSize (width height : Int) : Except MediaFault (UInt32 × UInt32) :=
  if width < 0 then .error (.invalidSps .horizontalCrop)
  else if height < 0 then .error (.invalidSps .verticalCrop)
  else if 4294967296 ≤ width ∨ 4294967296 ≤ height then .error (.invalidSps .dimensions)
  else .ok (width.toNat.toUInt32, height.toNat.toUInt32)

theorem pictureSize_eq (units : UInt64 × UInt64) (fullWidth fullHeight : UInt64) (crop : Crop) :
    pictureSize units fullWidth fullHeight crop =
      exactSize (fullWidth.toNat - ((crop.left + crop.right) * units.1).toNat)
        (fullHeight.toNat - ((crop.top + crop.bottom) * units.2).toNat) := by
  rw [pictureSize, exactSize]
  generalize (crop.left + crop.right) * units.1 = cutWidth
  generalize (crop.top + crop.bottom) * units.2 = cutHeight
  have narrow : fullWidth < cutWidth ↔ (fullWidth.toNat : Int) - cutWidth.toNat < 0 := by
    rw [UInt64.lt_iff_toNat_lt]
    omega
  have low : fullHeight < cutHeight ↔ (fullHeight.toNat : Int) - cutHeight.toNat < 0 := by
    rw [UInt64.lt_iff_toNat_lt]
    omega
  dsimp only
  by_cases cutTooWide : fullWidth < cutWidth
  · rw [if_pos cutTooWide, if_pos (narrow.1 cutTooWide)]
    rfl
  rw [if_neg cutTooWide, if_neg (mt narrow.2 cutTooWide)]
  by_cases cutTooHigh : fullHeight < cutHeight
  · rw [if_pos cutTooHigh, if_pos (low.1 cutTooHigh)]
    rfl
  rw [if_neg cutTooHigh, if_neg (mt low.2 cutTooHigh)]
  have difference {full cut : UInt64} (inside : ¬full < cut) :
      ((full - cut).toNat : Int) = full.toNat - cut.toNat := by
    rw [UInt64.not_lt] at inside
    rw [UInt64.toNat_sub_of_le _ _ inside, Int.ofNat_sub (UInt64.le_iff_toNat_le.1 inside)]
  have big (size : UInt64) : 4294967296 ≤ size ↔ (4294967296 : Int) ≤ size.toNat := by
    rw [UInt64.le_iff_toNat_le]
    exact Int.ofNat_le.symm
  rw [← difference cutTooWide, ← difference cutTooHigh]
  simp only [big, Int.toNat_natCast]
  split <;> rfl

/-- A size that is not refused is exact. -/
theorem exactSize_of_fits {width height : Int} (positiveWidth : 0 ≤ width)
    (smallWidth : width < 4294967296) (positiveHeight : 0 ≤ height)
    (smallHeight : height < 4294967296) :
    ∃ size : UInt32 × UInt32, exactSize width height = .ok size ∧
      (size.1.toNat : Int) = width ∧ (size.2.toNat : Int) = height := by
  have exact (side : Int) (positive : 0 ≤ side) (small : side < 4294967296) :
      (side.toNat.toUInt32.toNat : Int) = side := by
    have fits : side.toNat < UInt32.size := by rw [UInt32.size]; omega
    rw [Nat.toUInt32_eq, UInt32.toNat_ofNat_of_lt' fits]
    exact Int.toNat_of_nonneg positive
  have inside : ¬(4294967296 ≤ width ∨ 4294967296 ≤ height) := by omega
  rw [exactSize, if_neg (Int.not_lt.2 positiveWidth), if_neg (Int.not_lt.2 positiveHeight),
    if_neg inside]
  exact ⟨_, rfl, exact width positiveWidth smallWidth, exact height positiveHeight smallHeight⟩

namespace Elements

/-- A frame with fields has twice as many rows. -/
def fields (set : Elements) : Nat := if set.framesOnly then 1 else 2

def units (set : Elements) : Nat × Nat := exactUnits set.format.val set.separatePlanes set.fields

def croppedWidth (set : Elements) : Int :=
  16 * (set.widthMacroblocks.val + 1) - (set.margins.left.val + set.margins.right.val) * set.units.1

def croppedHeight (set : Elements) : Int :=
  set.fields * (16 * (set.heightUnits.val + 1)) -
    (set.margins.top.val + set.margins.bottom.val) * set.units.2

/-- The reader has these numbers in its machine integers. -/
def machineFields (set : Elements) : UInt64 := if set.framesOnly then 1 else 2

def machineUnits (set : Elements) : UInt64 × UInt64 :=
  cropUnits set.formatWord set.separatePlanes set.machineFields

/-- No machine integer wraps on the way to the size. -/
structure Exact (set : Elements) : Prop where
  fullWidth : ((set.widthMacroblocks.word.toUInt64 + 1) * 16).toNat =
    16 * (set.widthMacroblocks.val + 1)
  fullHeight : (set.machineFields * (set.heightUnits.word.toUInt64 + 1) * 16).toNat =
    set.fields * (16 * (set.heightUnits.val + 1))
  cutWidth : ((set.margins.crop.left + set.margins.crop.right) * set.machineUnits.1).toNat =
    (set.margins.left.val + set.margins.right.val) * set.units.1
  cutHeight : ((set.margins.crop.top + set.margins.crop.bottom) * set.machineUnits.2).toNat =
    (set.margins.top.val + set.margins.bottom.val) * set.units.2

theorem units_le (set : Elements) : set.units.1 ≤ 2 ∧ set.units.2 ≤ 4 := by
  rw [units, fields]
  generalize set.format = format
  generalize set.separatePlanes = separate
  generalize set.framesOnly = framesOnly
  revert format separate framesOnly
  decide

/-- The sum of two codes and a small factor fit in 64 bits. -/
theorem toNat_cut (one other : Unsigned) (unit : UInt64) (few : unit.toNat ≤ 4) :
    ((one.word.toUInt64 + other.word.toUInt64) * unit).toNat =
      (one.val + other.val) * unit.toNat := by
  have sum : (one.word.toUInt64 + other.word.toUInt64).toNat = one.val + other.val := by
    rw [UInt64.toNat_add, UInt32.toNat_toUInt64, UInt32.toNat_toUInt64, Unsigned.toNat_word,
      Unsigned.toNat_word]
    omega
  have bound : (one.val + other.val) * unit.toNat ≤ 8589934592 * 4 :=
    Nat.mul_le_mul (by omega) few
  rw [UInt64.toNat_mul, sum]
  omega

/-- A number of macroblocks of 16 samples fits in 64 bits. -/
theorem toNat_full (number : Unsigned) (fields : UInt64) (few : fields.toNat ≤ 2) :
    (fields * (number.word.toUInt64 + 1) * 16).toNat = fields.toNat * (16 * (number.val + 1)) := by
  have one : (1 : UInt64).toNat = 1 := rfl
  have sixteen : (16 : UInt64).toNat = 16 := rfl
  have count : (number.word.toUInt64 + 1).toNat = number.val + 1 := by
    rw [UInt64.toNat_add, UInt32.toNat_toUInt64, Unsigned.toNat_word, one]
    omega
  have bound : fields.toNat * (number.val + 1) ≤ 2 * 4294967296 :=
    Nat.mul_le_mul few (by omega)
  rw [UInt64.toNat_mul, UInt64.toNat_mul, count, sixteen, Nat.mul_left_comm]
  omega

theorem exact (set : Elements) : set.Exact := by
  have crops := cropUnits_eq set.format set.separatePlanes set.framesOnly
  obtain ⟨fewWide, fewHigh⟩ := set.units_le
  have wide : set.machineUnits.1.toNat = set.units.1 := congrArg Prod.fst crops
  have high : set.machineUnits.2.toNat = set.units.2 := congrArg Prod.snd crops
  have rows : set.machineFields.toNat = set.fields := by
    rw [machineFields, fields]
    split <;> rfl
  have few : set.fields ≤ 2 := by
    rw [fields]
    split <;> decide
  constructor
  · have full := toNat_full set.widthMacroblocks 1 (by decide)
    rw [UInt64.one_mul] at full
    rw [full]
    exact Nat.one_mul _
  · rw [← rows]
    exact toNat_full _ _ (by omega)
  · rw [← wide]
    exact toNat_cut _ _ _ (by omega)
  · rw [← high]
    exact toNat_cut _ _ _ (by omega)

/-- Reading what was written gives the size of the formulas. -/
theorem read_exact (set : Elements) (rest : List Bool) :
    read (set.bits ++ rest) = (exactSize set.croppedWidth set.croppedHeight).map
      fun size => (set.described size, rest) := by
  have width : set.croppedWidth = ((set.widthMacroblocks.word.toUInt64 + 1) * 16).toNat -
      (((set.margins.crop.left + set.margins.crop.right) * set.machineUnits.1).toNat : Int) := by
    rw [set.exact.fullWidth, set.exact.cutWidth, croppedWidth]
    push_cast
    rfl
  have height : set.croppedHeight =
      (set.machineFields * (set.heightUnits.word.toUInt64 + 1) * 16).toNat -
      (((set.margins.crop.top + set.margins.crop.bottom) * set.machineUnits.2).toNat : Int) := by
    rw [set.exact.fullHeight, set.exact.cutHeight, croppedHeight]
    push_cast
    rfl
  rw [width, height, ← pictureSize_eq]
  exact set.read_bits rest

end Elements

/-- This skips a scaling list with sums of 64 bits. -/
def skipScalesInWords (last next : Int64) : (count : Nat) → BitReader Unit
  | 0 => pure ()
  | count + 1 => do
      let next ← if next = 0 then pure 0 else do
        let delta ← readSigned
        pure ((last + delta.toInt64 + 256) % 256)
      skipScalesInWords (if next = 0 then last else next) next count

/-- A scale is below 256 in size, so no sum with the next difference wraps. -/
theorem toInt_scale {last : Int64} (delta : Int32) (low : -256 < last.toInt)
    (high : last.toInt < 256) :
    ((last + delta.toInt64 + 256) % 256).toInt = (last.toInt + delta.toInt + 256).tmod 256 := by
  have least := delta.le_toInt
  have greatest := delta.toInt_lt
  have constant : (256 : Int64).toInt = 256 := rfl
  have first : (last + delta.toInt64).toInt = last.toInt + delta.toInt := by
    rw [Int64.toInt_add, Int32.toInt_toInt64]
    exact Int.bmod_eq_of_le (by omega) (by omega)
  have sum : (last + delta.toInt64 + 256).toInt = last.toInt + delta.toInt + 256 := by
    rw [Int64.toInt_add, first, constant]
    exact Int.bmod_eq_of_le (by omega) (by omega)
  rw [Int64.toInt_mod, sum, constant]

/-- The sums of a scaling list never wrap, whatever the bits are. -/
theorem skipScalesInWords_eq (count : Nat) {last next : Int64} (low : -256 < last.toInt)
    (high : last.toInt < 256) :
    skipScalesInWords last next count = skipScales last.toInt next.toInt count := by
  have zero (number : Int64) : number.toInt = 0 ↔ number = 0 := by
    rw [← Int64.toInt_inj]
    rfl
  -- The last scale stays below 256 in size, which bounds every sum.
  induction count generalizing last next with
  | zero => rfl
  | succ count inductionHypothesis =>
      rw [skipScalesInWords, skipScales]
      simp only [zero]
      split
      case isTrue ended =>
        rw [pure_bind, pure_bind]
        exact inductionHypothesis low high
      case isFalse going =>
        simp only [pure_bind]
        congr 1
        funext delta
        have scale := toInt_scale delta low high
        generalize (last + delta.toInt64 + 256) % 256 = word at scale
        have bounds : -256 < word.toInt ∧ word.toInt < 256 := by
          rw [scale, Int.tmod_eq_emod]
          split <;> omega
        rw [← scale]
        simp only [zero]
        split
        · exact inductionHypothesis low high
        · exact inductionHypothesis bounds.1 bounds.2

/-- A unit holds the escaped octets of a set behind its header. Other bits may follow the set, and
other octets may follow these. -/
def unitOf (header : UInt8) (set : Elements) (further : List Bool) (behind : Octets) : Octets :=
  header :: (escape (pack (set.bits ++ further)) ++ behind)

/-- The profile, the constraints and the level take three octets. -/
theorem length_bits_set (set : Elements) : 24 ≤ set.bits.length := by
  have eight (octet : UInt8) : (octetBits octet).length = 8 := rfl
  simp only [Elements.bits, List.length_append, eight]
  omega

/-- Reading a unit gives the set back. -/
theorem parse_unitOf (set : Elements) (further : List Bool) (behind : Octets) {header : UInt8}
    (isSet : Nal.typeOf header = 7) :
    parse (unitOf header set further behind) =
      (exactSize set.croppedWidth set.croppedHeight).map set.described := by
  obtain ⟨rest, stripped⟩ := exists_stripFrom_escapeFrom 0 (pack (set.bits ++ further)) behind
  obtain ⟨padding, packed⟩ := exists_bits_pack (set.bits ++ further)
  have long : 3 ≤ (escape (pack (set.bits ++ further)) ++ behind).length := by
    have written := length_bits_set set
    have kept := length_le_pack (set.bits ++ further)
    have escaped := length_le_escapeFrom 0 (pack (set.bits ++ further))
    rw [List.length_append] at kept ⊢
    rw [escape]
    omega
  rw [unitOf]
  rw [← escape, ← stripEmulation] at stripped
  generalize escape (pack (set.bits ++ further)) ++ behind = body at long stripped ⊢
  match body, long with
  | profile :: constraints :: level :: others, _ =>
      have data : bits (stripEmulation (profile :: constraints :: level :: others)) =
          set.bits ++ (further ++ padding ++ bits rest) := by
        rw [stripped, bits, List.flatMap_append, ← bits, ← bits, packed]
        simp only [List.append_assoc]
      have known : ¬Nal.typeOf header ≠ Nal.Kind.sps.code := not_not_intro isSet
      rw [parse, if_neg known]
      dsimp only [StateT.run]
      rw [data, set.read_exact]
      cases exactSize set.croppedWidth set.croppedHeight <;> rfl

/-- The parser gives the fields and the exact cropped size of every set that follows the syntax, or
it names the rule that the size breaks. No number that it computes on the way wraps. -/
theorem parse_exact (set : Elements) (further : List Bool) (behind : Octets) {header : UInt8}
    (isSet : Nal.typeOf header = 7) :
    let unit := unitOf header set further behind
    let width := set.croppedWidth
    let height := set.croppedHeight
    (0 ≤ width → width < 4294967296 → 0 ≤ height → height < 4294967296 →
      ∃ sps, parse unit = .ok sps ∧ sps.profile = set.profile ∧
        sps.constraints = set.constraints ∧ sps.level = set.level ∧
        sps.chromaFormat.toNat = set.format.val ∧ sps.separatePlanes = set.separatePlanes ∧
        sps.framesOnly = set.framesOnly ∧ (sps.width.toNat : Int) = width ∧
        (sps.height.toNat : Int) = height) ∧
    (width < 0 → parse unit = .error (.invalidSps .horizontalCrop)) ∧
    (0 ≤ width → height < 0 → parse unit = .error (.invalidSps .verticalCrop)) ∧
    (0 ≤ width → 0 ≤ height → 4294967296 ≤ width ∨ 4294967296 ≤ height →
      parse unit = .error (.invalidSps .dimensions)) ∧
    (∀ number : Unsigned, Reads readUnsigned number.bits number.word ∧
      number.word.toNat = number.val) ∧
    (∀ number : Signed, Reads readSigned number.bits number.word ∧
      number.word.toInt = number.val) ∧
    (∀ count, skipScalesInWords 8 8 count = skipScales 8 8 count) ∧
    set.Exact := by
  intro unit width height
  have parsed : parse unit = (exactSize width height).map set.described :=
    parse_unitOf set further behind isSet
  refine ⟨?fits, ?wide, ?high, ?large, ?unsigned, ?signed, ?scales, set.exact⟩
  case fits =>
    intro positiveWidth smallWidth positiveHeight smallHeight
    obtain ⟨size, fits, exactWidth, exactHeight⟩ :=
      exactSize_of_fits positiveWidth smallWidth positiveHeight smallHeight
    rw [fits] at parsed
    exact ⟨set.described size, parsed, rfl, rfl, rfl, Unsigned.toNat_word _, rfl, rfl, exactWidth,
      exactHeight⟩
  case wide =>
    intro negative
    rw [parsed, exactSize, if_pos negative]
    rfl
  case high =>
    intro positive negative
    rw [parsed, exactSize, if_neg (Int.not_lt.2 positive), if_pos negative]
    rfl
  case large =>
    intro positiveWidth positiveHeight big
    rw [parsed, exactSize, if_neg (Int.not_lt.2 positiveWidth),
      if_neg (Int.not_lt.2 positiveHeight), if_pos big]
    rfl
  case unsigned => exact fun number => ⟨number.reads, number.toNat_word⟩
  case signed => exact fun number => ⟨number.reads, number.toInt_word⟩
  case scales => exact fun count => skipScalesInWords_eq count (by decide) (by decide)

theorem parse_exact_phone :
    ∃ sps, parse [0x67, 0x64, 0x00, 0x2A, 0xAD, 0x84, 0x02, 0x3A, 0x21, 0x84, 0xFF, 0x83, 0xFF,
        0xFF, 0xFF, 0xFF, 0xFF, 0xFF, 0xFF, 0xFE, 0x1A, 0x80, 0x00, 0x27, 0x10, 0x40, 0x00, 0x27,
        0x10, 0x0C, 0x00, 0x07, 0x53, 0x00, 0x00, 0x0E, 0xA6, 0x12, 0x80, 0x88, 0x02, 0x4F, 0xCB,
        0x3A] = .ok sps ∧
      sps.width.toNat = 1080 ∧ sps.height.toNat = 2340 := by
  have width : phone.croppedWidth = 1080 := by decide +kernel
  have height : phone.croppedHeight = 2340 := by decide +kernel
  have written : unitOf 0x67 phone [false, true, false] [] = [0x67, 0x64, 0x00, 0x2A, 0xAD, 0x84,
      0x02, 0x3A, 0x21, 0x84, 0xFF, 0x83, 0xFF, 0xFF, 0xFF, 0xFF, 0xFF, 0xFF, 0xFF, 0xFE, 0x1A,
      0x80, 0x00, 0x27, 0x10, 0x40, 0x00, 0x27, 0x10, 0x0C, 0x00, 0x07, 0x53, 0x00, 0x00, 0x0E,
      0xA6, 0x12, 0x80, 0x88, 0x02, 0x4F, 0xCB, 0x3A] := by decide +kernel
  have parsed := (parse_exact phone [false, true, false] []
    (show Nal.typeOf 0x67 = 7 by decide)).1
  rw [width, height, written] at parsed
  obtain ⟨sps, found, -, -, -, -, -, -, wide, high⟩ :=
    parsed (by decide) (by decide) (by decide) (by decide)
  exact ⟨sps, found, Int.ofNat_inj.1 wide, Int.ofNat_inj.1 high⟩

/-- Zero octets of a set are written with emulation prevention. -/
example :
    let high : HighElements :=
      { format := 1, separate := false, lumaDepth := 0, chromaDepth := 0, bypass := false
        scaling? := none }
    unitOf 0x67
      { profile := 77, constraints := 64, level := 31, identifier := 0, high
        frameNumberBits := 0
        order := .cycle false ⟨56832, by decide⟩ ⟨-56832, by decide⟩ [⟨56832, by decide⟩] (by decide)
        references := 4, gaps := false, widthMacroblocks := 79, heightUnits := 44
        adaptive? := none, inference := true, crop? := some {} }
      [false, true] [] =
    [0x67, 0x4D, 0x40, 0x1F, 0xD0, 0x00, 0x03, 0x78, 0x00, 0x00, 0x03, 0x01, 0xBC, 0x01, 0x40, 0x00,
      0x1B, 0xC0, 0x02, 0x80, 0xA0, 0x0B, 0x7F, 0xA0] := by
  decide +kernel

end Screencast.Avc.Sps
