/-
This file shows that a reader of bits finds the same whatever follows, unless it runs out of bits. A
set that was cut off is therefore never read as another one.
-/

import Screencast.Avc.Sps

namespace Screencast.Avc

/-- A reader that does not run out of bits finds the same when more bits follow, and it leaves
these. -/
def Stable {Value : Type} (reader : BitReader Value) : Prop :=
  ∀ front back, reader front ≠ .error .truncatedSps →
    reader (front ++ back) = (reader front).map fun found => (found.1, found.2 ++ back)

namespace Stable

variable {Value Result : Type} {reader : BitReader Value}

protected theorem pure (value : Value) : Stable (Pure.pure value) := fun _ _ _ => rfl

/-- What is wrong with the bits so far stays wrong. -/
theorem throw (fault : MediaFault) : Stable (MonadExcept.throw fault : BitReader Value) :=
  fun _ _ _ => rfl

/-- A result that does not depend on the bits is the same for all. -/
theorem lift (result : Except MediaFault Value) : Stable (monadLift result : BitReader Value) := by
  intro front back _
  cases result <;> rfl

theorem bind {next : Value → BitReader Result} (stable : Stable reader)
    (others : ∀ value, Stable (next value)) : Stable (reader >>= next) := by
  intro front back whole
  change (reader front).bind _ ≠ _ at whole
  change (reader (front ++ back)).bind _ = ((reader front).bind _).map _
  cases first : reader front with
  | error fault =>
      have unread : reader front ≠ .error .truncatedSps := by
        rw [first] at whole ⊢
        rintro ⟨rfl⟩
        exact whole rfl
      rw [stable front back unread, first]
      rfl
  | ok found =>
      have unread : reader front ≠ .error .truncatedSps := by simp [first]
      rw [first] at whole
      rw [stable front back unread, first]
      exact others found.1 found.2 back whole

theorem ite {condition : Prop} [Decidable condition] {other : BitReader Value}
    (first : Stable reader) (second : Stable other) :
    Stable (if condition then reader else other) := by
  split
  · exact first
  · exact second

/-- What is found does not depend on what follows. -/
theorem run (stable : Stable reader) {front : List Bool} (back : List Bool)
    (whole : (reader.run front).map Prod.fst ≠ .error .truncatedSps) :
    (reader.run (front ++ back)).map Prod.fst = (reader.run front).map Prod.fst := by
  have unread : reader front ≠ .error .truncatedSps := by
    intro cut
    apply whole
    change (reader front).map Prod.fst = _
    rw [cut]
    rfl
  change (reader (front ++ back)).map Prod.fst = (reader front).map Prod.fst
  rw [stable front back unread]
  cases reader front <;> rfl

/-- Two ways to find a value lead to the same readers behind them. -/
theorem branch {condition : Prop} [Decidable condition] {other : BitReader Value}
    {next : Value → BitReader Result} (first : Stable reader) (second : Stable other)
    (others : ∀ value, Stable (next value)) :
    Stable (if condition then reader >>= next else other >>= next) :=
  (first.bind others).ite (second.bind others)

/-- A reader that is left out in some cases. -/
theorem optional {condition : Prop} [Decidable condition] {next : BitReader Result}
    (first : Stable reader) (others : Stable next) :
    Stable (if condition then reader >>= fun _ => next else next) :=
  (first.bind fun _ => others).ite others

end Stable

theorem stable_readBit : Stable readBit := by
  intro front back whole
  cases front with
  | nil => exact absurd rfl whole
  | cons bit rest => rfl

theorem stable_readBitsOnto (value : UInt32) (count : Nat) : Stable (readBitsOnto value count) := by
  induction count generalizing value with
  | zero => exact Stable.pure value
  | succ count inductionHypothesis => exact stable_readBit.bind fun bit => inductionHypothesis _

theorem stable_readBits (count : Nat) : Stable (readBits count) := stable_readBitsOnto 0 count

theorem stable_readZeros (allowed : Nat) : Stable (readZeros allowed) := by
  induction allowed with
  | zero =>
      apply stable_readBit.bind
      intro one
      exact (Stable.pure 0).ite (.throw _)
  | succ allowed inductionHypothesis =>
      apply stable_readBit.bind
      intro one
      apply (Stable.pure 0).ite
      exact inductionHypothesis.bind fun zeros => .pure _

theorem stable_readUnsigned : Stable readUnsigned := by
  apply (stable_readZeros 31).bind
  intro zeros
  exact (stable_readBits zeros).bind fun suffix => .pure _

theorem stable_readSigned : Stable readSigned := stable_readUnsigned.bind fun _ => .pure _

namespace Sps

theorem stable_skipScales (last next : Int) (count : Nat) : Stable (skipScales last next count) := by
  induction count generalizing last next with
  | zero => exact .pure ()
  | succ count inductionHypothesis =>
      rw [skipScales]
      apply Stable.ite
      · exact inductionHypothesis _ _
      · exact stable_readSigned.bind fun delta => inductionHypothesis _ _

theorem stable_skipScalingLists (index count : Nat) : Stable (skipScalingLists index count) := by
  induction count generalizing index with
  | zero => exact .pure ()
  | succ count inductionHypothesis =>
      rw [skipScalingLists]
      apply stable_readBit.bind
      intro present
      apply Stable.ite
      · exact (stable_skipScales 8 8 _).bind fun _ => inductionHypothesis _
      · exact inductionHypothesis _

theorem stable_readChroma : Stable readChroma := by
  rw [readChroma]
  apply stable_readUnsigned.bind
  intro format
  apply (Stable.throw _).optional
  apply stable_readBit.branch (.pure false)
  intro separate
  apply stable_readUnsigned.bind
  intro lumaDepth
  apply stable_readUnsigned.bind
  intro chromaDepth
  apply stable_readBit.bind
  intro bypass
  apply stable_readBit.bind
  intro scaled
  exact (stable_skipScalingLists 0 _).optional (.pure _)

theorem stable_skipOffsets (count : Nat) : Stable (skipOffsets count) := by
  induction count with
  | zero => exact .pure ()
  | succ count inductionHypothesis =>
      exact stable_readSigned.bind fun _ => inductionHypothesis

theorem stable_skipPictureOrder : Stable skipPictureOrder := by
  rw [skipPictureOrder]
  apply stable_readUnsigned.bind
  intro order
  apply Stable.ite
  · exact stable_readUnsigned.bind fun _ => .pure ()
  · apply Stable.ite
    · apply stable_readBit.bind
      intro zero
      apply stable_readSigned.bind
      intro nonReference
      apply stable_readSigned.bind
      intro bottom
      apply stable_readUnsigned.bind
      intro cycle
      exact (Stable.throw _).optional (stable_skipOffsets _)
    · exact (Stable.throw _).ite (.pure ())

theorem stable_readCrop : Stable readCrop := by
  rw [readCrop]
  apply stable_readBit.bind
  intro present
  apply Stable.ite
  · apply stable_readUnsigned.bind
    intro left
    apply stable_readUnsigned.bind
    intro right
    apply stable_readUnsigned.bind
    intro top
    exact stable_readUnsigned.bind fun bottom => .pure _
  · exact .pure _

theorem stable_read : Stable read := by
  rw [read]
  apply (stable_readBits 8).bind
  intro profile
  apply (stable_readBits 8).bind
  intro constraints
  apply (stable_readBits 8).bind
  intro level
  apply stable_readUnsigned.bind
  intro identifier
  apply stable_readChroma.branch (.pure (1, false))
  intro chroma
  apply stable_readUnsigned.bind
  intro frameNumberBits
  apply stable_skipPictureOrder.bind
  intro order
  apply stable_readUnsigned.bind
  intro references
  apply stable_readBit.bind
  intro gaps
  apply stable_readUnsigned.bind
  intro widthMacroblocks
  apply stable_readUnsigned.bind
  intro heightUnits
  apply stable_readBit.bind
  intro framesOnly
  apply stable_readBit.optional
  apply stable_readBit.bind
  intro inference
  apply stable_readCrop.bind
  intro crop
  apply (Stable.lift _).bind
  intro size
  exact .pure _

end Sps

/-- What stands behind some octets does not change what is left of them. -/
theorem exists_stripFrom_append (zeros : Nat) (front back : Octets) :
    ∃ rest, stripFrom zeros (front ++ back) = stripFrom zeros front ++ rest := by
  induction front generalizing zeros with
  | nil => exact ⟨stripFrom zeros back, rfl⟩
  | cons octet front inductionHypothesis =>
      rw [List.cons_append, stripFrom, stripFrom]
      split
      · exact inductionHypothesis 0
      · obtain ⟨rest, stripped⟩ := inductionHypothesis (if octet = 0 then zeros + 1 else 0)
        exact ⟨rest, by rw [stripped, List.cons_append]⟩

/-- The bits of a unit come in front of those that follow it. -/
theorem exists_bits_append (unit behind : Octets) :
    ∃ rest, bits (stripEmulation (unit ++ behind)) = bits (stripEmulation unit) ++ rest := by
  obtain ⟨rest, stripped⟩ := exists_stripFrom_append 0 unit behind
  rw [stripEmulation, stripped, bits, List.flatMap_append]
  exact ⟨bits rest, rfl⟩

namespace Sps

/-- A unit that is long enough to be read gives the same set with other octets behind it. So no
octets behind a set change its size, and a unit that was cut off is never read as another set. -/
theorem parse_append (unit behind : Octets) :
    (parse unit ≠ .error .truncatedSps → parse (unit ++ behind) = parse unit) ∧
      ∀ set, parse (unit ++ behind) = .ok set →
        parse unit = .ok set ∨ parse unit = .error .truncatedSps := by
  have same : parse unit ≠ .error .truncatedSps → parse (unit ++ behind) = parse unit := by
    rcases unit with _ | ⟨header, _ | ⟨profile, _ | ⟨constraints, _ | ⟨level, rest⟩⟩⟩⟩
    case cons.cons.cons.cons =>
      intro whole
      obtain ⟨more, data⟩ := exists_bits_append (profile :: constraints :: level :: rest) behind
      simp only [List.cons_append] at data ⊢
      rw [parse] at whole ⊢
      rw [parse]
      split
      case isTrue => rfl
      case isFalse known =>
        rw [if_neg known] at whole
        dsimp only
        rw [data]
        exact stable_read.run more whole
    all_goals exact fun short => absurd rfl short
  constructor
  · exact same
  · intro set parsed
    by_cases cut : parse unit = .error .truncatedSps
    · exact .inr cut
    · rw [same cut] at parsed
      exact .inl parsed

/-- A zero octet behind a set is no part of it. -/
theorem parse_append_zero :
    let unit : Octets := [0x67, 0x64, 0x00, 0x28, 0xAC, 0xD9, 0x40, 0x78, 0x02, 0x27, 0xE5, 0x40]
    let set : Sps :=
      { profile := 100, constraints := 0, level := 40, chromaFormat := 1, separatePlanes := false
        framesOnly := true, width := 1920, height := 1080 }
    parse unit ≠ .error .truncatedSps ∧ parse unit = .ok set ∧ parse (unit ++ [0x00]) = .ok set := by
  intro unit set
  have parsed : parse unit = .ok set := by rfl
  have whole : parse unit ≠ .error .truncatedSps := by simp [parsed]
  exact ⟨whole, parsed, ((parse_append unit [0x00]).1 whole).trans parsed⟩

end Sps

end Screencast.Avc
