/-
This file defines octet strings and the integers that they spell.
-/

namespace Screencast

/-- An octet string holds the bytes of a stream in their order. -/
abbrev Octets := List UInt8

namespace Octets

/-- The little-endian form has the least significant octet first and keeps the low `width` octets. -/
def littleEndian : (width : Nat) → (value : Nat) → Octets
  | 0, _ => []
  | width + 1, value => value.toUInt8 :: littleEndian width (value / 256)

/-- The big-endian form has the most significant octet first. -/
def bigEndian (width value : Nat) : Octets := (littleEndian width value).reverse

/-- This is the number that a little-endian octet string spells. -/
def ofLittleEndian (octets : Octets) : Nat :=
  octets.foldr (fun octet value => octet.toNat + 256 * value) 0

/-- This is the number that a big-endian octet string spells. -/
def ofBigEndian (octets : Octets) : Nat := ofLittleEndian octets.reverse

/-- The octets of a text are its character codes, so the text has to be ASCII. -/
def ascii (text : String) : Octets :=
  text.toList.map fun letter => letter.toNat.toUInt8

/-- This many zero octets stand for a field without a value. -/
def zeros (count : Nat) : Octets := List.replicate count 0

@[simp] theorem length_littleEndian (width value : Nat) :
    (littleEndian width value).length = width := by
  induction width generalizing value with
  | zero => rfl
  | succ width inductionHypothesis => simp [littleEndian, inductionHypothesis]

@[simp] theorem length_bigEndian (width value : Nat) :
    (bigEndian width value).length = width := by
  rw [bigEndian, List.length_reverse, length_littleEndian]

@[simp] theorem length_zeros (count : Nat) : (zeros count).length = count :=
  List.length_replicate

/-- Reading gives back the octets that were kept. -/
theorem ofLittleEndian_littleEndian (width value : Nat) :
    ofLittleEndian (littleEndian width value) = value % (1 <<< (8 * width)) := by
  induction width generalizing value with
  | zero => simp [littleEndian, ofLittleEndian, Nat.mod_one]
  | succ width inductionHypothesis =>
      have tail := inductionHypothesis (value / 256)
      have split : 1 <<< (8 * (width + 1)) = 256 * 1 <<< (8 * width) := by
        simp only [Nat.shiftLeft_eq, Nat.one_mul, Nat.mul_add, Nat.pow_add]
        omega
      simp only [ofLittleEndian] at tail
      simp only [littleEndian, ofLittleEndian, List.foldr_cons, tail, split]
      rw [Nat.mod_mul]
      simp

theorem ofBigEndian_bigEndian (width value : Nat) :
    ofBigEndian (bigEndian width value) = value % (1 <<< (8 * width)) := by
  rw [ofBigEndian, bigEndian, List.reverse_reverse, ofLittleEndian_littleEndian]

end Octets

end Screencast
