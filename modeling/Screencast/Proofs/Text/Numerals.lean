/-
This file says which texts spell numbers. What is read is the value of the digits, and what is
written is read back.
-/

import Screencast.Text.Blank
import Screencast.Text.Digits

namespace Screencast.Text

theorem digitValue?_of_isDigit {letter : Char} (digit : letter.isDigit = true) :
    digitValue? letter = some (letter.toNat - 48) :=
  if_pos (Char.isDigit_iff_toNat.1 digit)

theorem digitValue?_of_not_isDigit {letter : Char} (other : letter.isDigit = false) :
    digitValue? letter = none := by
  apply if_neg
  intro inRange
  exact Bool.false_ne_true (other.symm.trans (Char.isDigit_iff_toNat.2 inRange))

/-- A fold over letters gives the number that their digits continue. -/
theorem foldlM_digitValue?_eq_some_iff {letters : List Char} {first value : Nat} :
    letters.foldlM (fun value letter => (digitValue? letter).map (value * 10 + ·)) first =
        some value ↔
      (∀ letter ∈ letters, letter.isDigit = true) ∧ Nat.ofDigitChars 10 letters first = value := by
  induction letters generalizing first with
  | nil => simp
  | cons letter rest inductionHypothesis =>
      rw [List.foldlM_cons]
      cases digit : letter.isDigit with
      | false => simp [digitValue?_of_not_isDigit digit, digit]
      | true =>
          rw [digitValue?_of_isDigit digit]
          simp [inductionHypothesis, digit, Nat.ofDigitChars_cons, Nat.mul_comm 10]

/-- A number is spelled by decimal digits, and there is at least one. -/
theorem decimal?_eq_some_iff {letters : List Char} {value : Nat} :
    decimal? letters = some value ↔
      letters ≠ [] ∧ (∀ letter ∈ letters, letter.isDigit = true) ∧
        Nat.ofDigitChars 10 letters 0 = value := by
  cases letters with
  | nil => simp [decimal?]
  | cons letter rest =>
      have read : decimal? (letter :: rest) = some value ↔ _ := foldlM_digitValue?_eq_some_iff
      rw [read, and_iff_right (List.cons_ne_nil letter rest)]

theorem isDigit_of_mem_toString {value : Nat} {letter : Char}
    (member : letter ∈ (toString value).toList) : letter.isDigit = true := by
  rw [Nat.toString_eq_repr, Nat.toList_repr] at member
  exact Nat.isDigit_of_mem_toDigits (by decide) (by decide) member

theorem toString_ne_nil (value : Nat) : (toString value).toList ≠ [] := by
  rw [Nat.toString_eq_repr, Nat.toList_repr]
  exact Nat.toDigits_ne_nil

/-- A number that was written is read back. -/
theorem ofDigitChars_toString (value : Nat) :
    Nat.ofDigitChars 10 (toString value).toList 0 = value := by
  rw [Nat.toString_eq_repr, Nat.toList_repr]
  exact Nat.ofDigitChars_ten_toDigits

/-- Only zero is written with a zero in front. -/
theorem eq_zero_of_head?_toString {value : Nat}
    (leading : (toString value).toList.head? = some '0') : value = 0 := by
  rw [Nat.toString_eq_repr, Nat.toList_repr] at leading
  induction value using Nat.strongRecOn with
  | ind value inductionHypothesis =>
      by_cases small : value < 10
      · rw [Nat.toDigits_of_lt_base small] at leading
        exact Nat.digitChar_eq_zero.1 (Option.some.inj leading)
      · have large : 10 ≤ value := Nat.le_of_not_lt small
        obtain ⟨first, rest, digits⟩ := List.exists_cons_of_ne_nil
          (Nat.toDigits_ne_nil (b := 10) (n := value / 10))
        have front := inductionHypothesis (value / 10) (by omega)
        rw [digits] at front
        rw [Nat.toDigits_of_base_le (by decide) large, digits] at leading
        have zero := front leading
        omega

theorem decimal?_toString (value : Nat) : decimal? (toString value).toList = some value :=
  decimal?_eq_some_iff.2 ⟨toString_ne_nil value, fun _ => isDigit_of_mem_toString,
    ofDigitChars_toString value⟩

/-- A 32-bit number is spelled by digits, perhaps with zeros or a plus sign in front. -/
def Numeral (letters : List Char) (value : UInt32) : Prop :=
  ∃ digits, (letters = digits ∨ letters = '+' :: digits) ∧ digits ≠ [] ∧
    (∀ letter ∈ digits, letter.isDigit = true) ∧ Nat.ofDigitChars 10 digits 0 = value.toNat

theorem numeral_toString (value : UInt32) : Numeral (toString value.toNat).toList value :=
  ⟨_, .inl rfl, toString_ne_nil _, fun _ => isDigit_of_mem_toString, ofDigitChars_toString _⟩

/-- A sign is no digit, so it is clear whether there is one. -/
theorem unsigned_of_digits {letters : List Char}
    (digits : ∀ letter ∈ letters, letter.isDigit = true) : letters.head? ≠ some '+' := by
  intro signed
  have digit := digits '+' (List.mem_of_head? signed)
  exact absurd digit (by decide)

theorem word?_eq_some_iff {letters : List Char} {value : UInt32} :
    word? letters = some value ↔ Numeral letters value := by
  constructor
  · intro read
    obtain ⟨number, spelled, fits⟩ := Option.bind_eq_some_iff.1 read
    obtain ⟨nonempty, digits, value_eq⟩ := decimal?_eq_some_iff.1 spelled
    obtain ⟨below, word⟩ := Option.ite_none_right_eq_some.1 fits
    obtain rfl := Option.some.inj word
    refine ⟨_, ?_, nonempty, digits, value_eq.trans (Nat.mod_eq_of_lt below).symm⟩
    split
    case isTrue signed =>
      obtain ⟨rest, rfl⟩ := List.head?_eq_some_iff.1 signed
      exact .inr rfl
    case isFalse => exact .inl rfl
  · rintro ⟨digits, signed, nonempty, each, value_eq⟩
    have stripped : (if letters.head? = some '+' then letters.tail else letters) = digits := by
      rcases signed with rfl | rfl
      · exact if_neg (unsigned_of_digits each)
      · rfl
    have spelled : decimal? (if letters.head? = some '+' then letters.tail else letters) =
        some value.toNat := by
      rw [stripped]
      exact decimal?_eq_some_iff.2 ⟨nonempty, each, value_eq⟩
    simp [word?, spelled, value.toNat_lt_size]

end Screencast.Text
