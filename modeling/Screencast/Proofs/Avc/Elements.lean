/-
This file spells out the syntax of a sequence parameter set, field by field, and shows that the
reader of each part takes exactly its bits.
-/

import Screencast.Avc.Sps
import Screencast.Proofs.Avc.Codes

namespace Screencast.Avc.Sps

/-- A scaling list is written until the next scale is zero. Scales count modulo 256. -/
def scaleBits (last next : Int) : List Signed → List Bool
  | [] => []
  | delta :: rest =>
      if next = 0 then scaleBits last 0 rest
      else
        let scale := (last + delta.val + 256) % 256
        delta.bits ++ scaleBits (if scale = 0 then last else scale) scale rest

/-- A flag tells whether a list follows. The first six lists have 16 scales and the others 64. -/
def scalingBits (index : Nat) : List (Option (Vector Signed 64)) → List Bool
  | [] => []
  | none :: rest => [false] ++ scalingBits (index + 1) rest
  | some deltas :: rest =>
      [true] ++ scaleBits 8 8 (deltas.toList.take (if index < 6 then 16 else 64)) ++
        scalingBits (index + 1) rest

/-- A high profile adds these. -/
structure HighElements where
  format : Fin 4
  /-- A set writes this for 4:4:4 only. -/
  separate : Bool
  lumaDepth : Unsigned
  chromaDepth : Unsigned
  bypass : Bool
  scaling? : Option (Vector (Option (Vector Signed 64)) 12)

namespace HighElements

def separates (high : HighElements) : Bool := high.format = 3 && high.separate

/-- There are more scaling lists for 4:4:4. -/
def lists (high : HighElements) : Nat := if high.format = 3 then 12 else 8

def bits (high : HighElements) : List Bool :=
  Unsigned.bits (high.format.castLE (by decide)) ++
    (if high.format = 3 then [high.separate] else []) ++
    high.lumaDepth.bits ++ high.chromaDepth.bits ++ [high.bypass] ++
    match high.scaling? with
    | none => [false]
    | some lists => [true] ++ scalingBits 0 (lists.toList.take high.lists)

end HighElements

/-- There are three ways to code the order of the pictures. -/
inductive PictureOrder
  | coded (bits : Unsigned)
  | cycle (zero : Bool) (nonReference bottom : Signed) (offsets : List Signed)
      (short : offsets.length ≤ 255)
  | output

def PictureOrder.bits : PictureOrder → List Bool
  | .coded bits => Unsigned.bits 0 ++ bits.bits
  | .cycle zero nonReference bottom offsets short =>
      Unsigned.bits 1 ++ [zero] ++ nonReference.bits ++ bottom.bits ++
        Unsigned.bits ⟨offsets.length, by omega⟩ ++ offsets.flatMap Signed.bits
  | .output => Unsigned.bits 2

/-- A crop counts units on each side. -/
structure Margins where
  left : Unsigned := 0
  right : Unsigned := 0
  top : Unsigned := 0
  bottom : Unsigned := 0

/-- A flag tells whether a crop follows. -/
def cropBits : Option Margins → List Bool
  | none => [false]
  | some margins =>
      [true] ++ margins.left.bits ++ margins.right.bits ++ margins.top.bits ++ margins.bottom.bits

/-- A flag tells whether there are frames only. Where there are fields, a flag tells whether they
may change within a frame. -/
def fieldBits : Option Bool → List Bool
  | none => [true]
  | some adaptive => [false] ++ [adaptive]

/-- These are the fields of a set up to the crop. -/
structure Elements where
  profile : UInt8
  constraints : UInt8
  level : UInt8
  identifier : Unsigned
  /-- A set writes these for a high profile only. -/
  high : HighElements
  frameNumberBits : Unsigned
  order : PictureOrder
  references : Unsigned
  gaps : Bool
  /-- This is one less than the number of macroblocks in a row. -/
  widthMacroblocks : Unsigned
  /-- This is one less than the number of map units in a column. -/
  heightUnits : Unsigned
  /-- A set for frames only does not have this. -/
  adaptive? : Option Bool
  inference : Bool
  crop? : Option Margins

namespace Elements

def bits (set : Elements) : List Bool :=
  octetBits set.profile ++ octetBits set.constraints ++ octetBits set.level ++
    set.identifier.bits ++
    (if set.profile ∈ highProfiles then set.high.bits else []) ++
    set.frameNumberBits.bits ++ set.order.bits ++ set.references.bits ++ [set.gaps] ++
    set.widthMacroblocks.bits ++ set.heightUnits.bits ++
    fieldBits set.adaptive? ++ [set.inference] ++ cropBits set.crop?

end Elements

/-- This set has two scaling lists and a cycle of two offsets. -/
def phone : Elements :=
  let zero : Signed := ⟨0, by decide⟩
  let first : List Signed :=
    [⟨8, by decide⟩, ⟨-8, by decide⟩, zero, zero, ⟨1, by decide⟩, ⟨2, by decide⟩, ⟨3, by decide⟩,
      ⟨-4, by decide⟩] ++ List.replicate 56 zero
  let lists : List (Option (Vector Signed 64)) :=
    [some ⟨first.toArray, rfl⟩] ++ List.replicate 5 none ++ [some (Vector.replicate 64 zero)] ++
      List.replicate 5 none
  { profile := 100, constraints := 0, level := 42, identifier := 0
    high := { format := 1, separate := false, lumaDepth := 0, chromaDepth := 0, bypass := false
              scaling? := some ⟨lists.toArray, rfl⟩ }
    frameNumberBits := 12
    order := .cycle false ⟨-20000, by decide⟩ ⟨40000, by decide⟩
      [⟨30000, by decide⟩, ⟨-30000, by decide⟩] (by decide)
    references := 4, gaps := false, widthMacroblocks := 67, heightUnits := 146
    adaptive? := none, inference := true
    crop? := some { right := 4, bottom := 6 } }

theorem tmod_eq_zero_iff (sum : Int) : sum.tmod 256 = 0 ↔ sum % 256 = 0 := by
  rw [Int.tmod_eq_emod]
  split <;> omega

theorem tmod_emod (sum : Int) : sum.tmod 256 % 256 = sum % 256 := by
  rw [Int.tmod_eq_emod]
  split <;> omega

/-- The scales of the reader may differ from the written ones by a multiple of 256. -/
theorem scale_congr {last writtenLast : Int} (sameLast : last % 256 = writtenLast % 256)
    (delta : Int) :
    let scale := (last + delta + 256).tmod 256
    let written := (writtenLast + delta + 256) % 256
    (scale = 0 ↔ written = 0) ∧
      (if scale = 0 then last else scale) % 256 =
        (if written = 0 then writtenLast else written) % 256 := by
  intro scale written
  have sameSum : scale % 256 = written := by
    change (last + delta + 256).tmod 256 % 256 = (writtenLast + delta + 256) % 256
    rw [tmod_emod]
    omega
  have sameZero : scale = 0 ↔ written = 0 := by
    change (last + delta + 256).tmod 256 = 0 ↔ (writtenLast + delta + 256) % 256 = 0
    rw [tmod_eq_zero_iff]
    omega
  refine ⟨sameZero, ?_⟩
  split <;> split <;> omega

theorem reads_scales (deltas : List Signed) {last next writtenLast writtenNext : Int}
    (sameLast : last % 256 = writtenLast % 256) (sameEnd : next = 0 ↔ writtenNext = 0) :
    Reads (skipScales last next deltas.length) (scaleBits writtenLast writtenNext deltas) () := by
  -- A remainder of the reader may be negative, so the induction compares classes and not numbers.
  induction deltas generalizing last next writtenLast writtenNext with
  | nil => exact Reads.pure ()
  | cons delta rest inductionHypothesis =>
      rw [List.length_cons, skipScales, scaleBits]
      split
      case isTrue ended =>
        rw [pure_bind, if_pos (sameEnd.1 ended)]
        exact inductionHypothesis sameLast (by decide)
      case isFalse going =>
        rw [if_neg fun ended => going (sameEnd.2 ended)]
        apply Reads.bind delta.reads
        rw [pure_bind, Signed.toInt_word]
        obtain ⟨sameZero, sameScale⟩ := scale_congr sameLast delta.val
        exact inductionHypothesis sameScale sameZero

/-- Each list is read where its flag is set. -/
theorem reads_scalingLists (lists : List (Option (Vector Signed 64))) (index : Nat) :
    Reads (skipScalingLists index lists.length) (scalingBits index lists) () := by
  induction lists generalizing index with
  | nil => exact Reads.pure ()
  | cons list rest inductionHypothesis =>
      rw [List.length_cons, skipScalingLists]
      cases list with
      | none =>
          apply Reads.bind (reads_bit false)
          exact inductionHypothesis (index + 1)
      | some deltas =>
          have size : (deltas.toList.take (if index < 6 then 16 else 64)).length =
              if index < 6 then 16 else 64 := by
            rw [List.length_take, Vector.length_toList]
            split <;> rfl
          have scales := reads_scales (deltas.toList.take (if index < 6 then 16 else 64))
            (show (8 : Int) % 256 = 8 % 256 from rfl) (Iff.refl ((8 : Int) = 0))
          rw [size] at scales
          rw [scalingBits, List.append_assoc]
          apply Reads.bind (reads_bit true)
          exact scales.bind (inductionHypothesis (index + 1))

theorem reads_offsets (offsets : List Signed) :
    Reads (skipOffsets offsets.length) (offsets.flatMap Signed.bits) () := by
  induction offsets with
  | nil => exact Reads.pure ()
  | cons offset rest inductionHypothesis =>
      rw [List.length_cons, skipOffsets, List.flatMap_cons]
      exact offset.reads.bind inductionHypothesis

theorem PictureOrder.reads (order : PictureOrder) : Reads skipPictureOrder order.bits () := by
  cases order with
  | coded bits =>
      apply Reads.bind (Unsigned.reads 0)
      rw [if_pos (by decide)]
      exact bits.reads.map
  | cycle zero nonReference bottom offsets short =>
      rw [PictureOrder.bits]
      simp only [List.append_assoc]
      apply Reads.bind (Unsigned.reads 1)
      rw [if_neg (by decide), if_pos (by decide)]
      apply Reads.bind (reads_bit zero)
      apply Reads.bind nonReference.reads
      apply Reads.bind bottom.reads
      apply Reads.bind (Unsigned.reads ⟨offsets.length, by omega⟩)
      have inside : ¬255 < Unsigned.word ⟨offsets.length, by omega⟩ := by
        rw [UInt32.lt_iff_toNat_lt, Unsigned.toNat_word]
        exact Nat.not_lt.2 short
      dsimp only
      rw [if_neg inside, Unsigned.toNat_word]
      exact reads_offsets offsets
  | output =>
      intro rest
      rw [skipPictureOrder, PictureOrder.bits, (Unsigned.reads 2).before]
      rfl

namespace HighElements

/-- The depths and the scaling lists follow the format. -/
theorem reads_depths {Result : Type} (high : HighElements) (result : Result) :
    Reads (do
        let _ ← readUnsigned
        let _ ← readUnsigned
        let _ ← readBit
        if ← readBit then skipScalingLists 0 high.lists
        return result)
      (high.lumaDepth.bits ++ (high.chromaDepth.bits ++ ([high.bypass] ++
        match high.scaling? with
        | none => [false]
        | some lists => [true] ++ scalingBits 0 (lists.toList.take high.lists)))) result := by
  apply Reads.bind high.lumaDepth.reads
  apply Reads.bind high.chromaDepth.reads
  apply Reads.bind (reads_bit high.bypass)
  split
  · exact (reads_bit false).bind (Reads.pure result)
  · rename_i lists _
    have count : (lists.toList.take high.lists).length = high.lists := by
      rw [List.length_take, Vector.length_toList, HighElements.lists]
      split <;> rfl
    have scales := reads_scalingLists (lists.toList.take high.lists) 0
    rw [count] at scales
    apply Reads.bind (reads_bit true)
    exact scales.map

/-- A high profile gives the format and whether the planes are separate. -/
theorem reads (high : HighElements) :
    Reads readChroma high.bits
      (Unsigned.word (high.format.castLE (by decide)), high.separates) := by
  have format := Unsigned.toNat_word (high.format.castLE (by decide))
  rw [Fin.val_castLE] at format
  have known : ¬3 < Unsigned.word (high.format.castLE (by decide)) := by
    rw [UInt32.lt_iff_toNat_lt, format]
    exact Nat.not_lt.2 (Nat.le_of_lt_succ high.format.isLt)
  have full : Unsigned.word (high.format.castLE (by decide)) = 3 ↔ high.format = 3 := by
    rw [← UInt32.toNat_inj, format, Fin.ext_iff]
    rfl
  rw [readChroma, bits]
  simp only [List.append_assoc]
  apply Reads.bind (Unsigned.reads _)
  rw [if_neg known]
  have count : (if high.format = 3 then 12 else 8) = high.lists := rfl
  simp only [full, count]
  split
  case isTrue planar =>
    have separates : high.separates = high.separate := by
      rw [HighElements.separates, planar]
      rfl
    rw [separates]
    apply Reads.bind (reads_bit high.separate)
    exact high.reads_depths _
  case isFalse joined =>
    have separates : high.separates = false := by
      rw [HighElements.separates, decide_eq_false joined]
      rfl
    rw [separates]
    exact high.reads_depths _

end HighElements

def Margins.crop (margins : Margins) : Crop where
  left := margins.left.word.toUInt64
  right := margins.right.word.toUInt64
  top := margins.top.word.toUInt64
  bottom := margins.bottom.word.toUInt64

theorem reads_crop (crop? : Option Margins) :
    Reads readCrop (cropBits crop?) (crop?.getD {}).crop := by
  cases crop? with
  | none => exact (reads_bit false).bind (Reads.pure _)
  | some margins =>
      rw [cropBits]
      simp only [List.append_assoc]
      apply Reads.bind (reads_bit true)
      apply Reads.bind margins.left.reads
      apply Reads.bind margins.right.reads
      apply Reads.bind margins.top.reads
      exact margins.bottom.reads.map

namespace Elements

def margins (set : Elements) : Margins := set.crop?.getD {}

def framesOnly (set : Elements) : Bool := set.adaptive?.isNone

/-- Other profiles imply 4:2:0. -/
def format (set : Elements) : Fin 4 := if set.profile ∈ highProfiles then set.high.format else 1

def separatePlanes (set : Elements) : Bool :=
  if set.profile ∈ highProfiles then set.high.separates else false

def formatWord (set : Elements) : UInt32 := Unsigned.word (set.format.castLE (by decide))

/-- This is what a reader of a picture of this size finds. -/
def described (set : Elements) (size : UInt32 × UInt32) : Sps where
  profile := set.profile
  constraints := set.constraints
  level := set.level
  chromaFormat := set.formatWord
  separatePlanes := set.separatePlanes
  framesOnly := set.framesOnly
  width := size.1
  height := size.2

/-- What follows sees the format that a high profile gives or another profile implies. -/
theorem chroma_before {Result : Type} (set : Elements) (next : UInt32 × Bool → BitReader Result)
    (rest : List Bool) :
    (if set.profile ∈ highProfiles then readChroma >>= next else pure (1, false) >>= next)
      ((if set.profile ∈ highProfiles then set.high.bits else []) ++ rest) =
      next (set.formatWord, set.separatePlanes) rest := by
  rw [formatWord, format, separatePlanes]
  split
  · exact set.high.reads.before next rest
  · exact (Reads.pure _).before next rest

/-- What follows sees whether there are frames only. -/
theorem fields_before {Result : Type} (adaptive? : Option Bool) (next : Bool → BitReader Result)
    (rest : List Bool) :
    (readBit >>= fun framesOnly =>
      if (!framesOnly) = true then readBit >>= fun _ => next framesOnly else next framesOnly)
      (fieldBits adaptive? ++ rest) = next adaptive?.isNone rest := by
  cases adaptive? with
  | none => exact (reads_bit true).before _ rest
  | some adaptive =>
      rw [fieldBits, List.append_assoc, (reads_bit false).before]
      exact (reads_bit adaptive).before _ rest

/-- The reader finds the size of the picture behind all that it skips. -/
theorem read_bits (set : Elements) (rest : List Bool) :
    let fields : UInt64 := if set.framesOnly then 1 else 2
    read (set.bits ++ rest) =
      (pictureSize (cropUnits set.formatWord set.separatePlanes fields)
        ((set.widthMacroblocks.word.toUInt64 + 1) * 16)
        (fields * (set.heightUnits.word.toUInt64 + 1) * 16) set.margins.crop).map
        fun size => (set.described size, rest) := by
  rw [read, bits]
  simp only [List.append_assoc]
  rw [(reads_octet set.profile).before, (reads_octet set.constraints).before,
    (reads_octet set.level).before, set.identifier.reads.before]
  simp only [UInt8.toUInt8_toUInt32]
  rw [chroma_before, set.frameNumberBits.reads.before, set.order.reads.before,
    set.references.reads.before, (reads_bit set.gaps).before, set.widthMacroblocks.reads.before,
    set.heightUnits.reads.before, fields_before, (reads_bit set.inference).before,
    (reads_crop set.crop?).before]
  rw [framesOnly, margins]
  generalize pictureSize _ _ _ _ = size
  cases size <;> rfl

end Elements

end Screencast.Avc.Sps
