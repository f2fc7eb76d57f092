/-
This file shows that the decoder reads UTF-8: it finds every letter that is encoded, and puts one
replacement character for each part that only begins a letter or begins none.
-/

import Mathlib.Data.List.Infix
import Screencast.Text.Utf8

namespace Screencast.Text.Utf8

/-- The code of some letter begins with these octets. -/
def Begins (part : Octets) : Prop := ∃ letter : Char, part <+: String.utf8EncodeChar letter

/-- A part that stands in front of some octets is no letter. It is the longest part that begins one,
or it is one octet that begins none. -/
structure IllFormed (part rest : Octets) : Prop where
  nonempty : part ≠ []
  unfinished : ∀ letter, part ≠ String.utf8EncodeChar letter
  begins : part.length = 1 ∨ Begins part
  longest : ∀ next, rest.head? = some next → ¬ Begins (part ++ [next])

/-- Octets are decoded from the left. Where no code of a letter stands, one replacement character
stands for the part that is ill-formed. -/
inductive Decodes : Octets → List Char → Prop
  | nothing : Decodes [] []
  | letter (letter : Char) {rest : Octets} {letters : List Char} (decodes : Decodes rest letters) :
      Decodes (String.utf8EncodeChar letter ++ rest) (letter :: letters)
  | replaced {part rest : Octets} {letters : List Char} (illFormed : IllFormed part rest)
      (decodes : Decodes rest letters) :
      Decodes (part ++ rest) (Char.ofNat 0xFFFD :: letters)

section Codes

variable {first second third fourth : UInt8} {code : Nat}

theorem val_ofNat (valid : code.isValidChar) : (Char.ofNat code).val.toNat = code := by
  rw [Char.ofNat, dif_pos valid]
  rfl

theorem code_of_one (low : first.toNat < 0x80) :
    String.utf8EncodeChar (Char.ofNat first.toNat) = [first] := by
  have value : (Char.ofNat first.toNat).val.toNat = first.toNat := val_ofNat (.inl (by omega))
  rw [String.utf8EncodeChar, value, if_pos (by omega), UInt8.ofNat_toNat]

theorem code_of_two (lead : 0xC2 ≤ first.toNat ∧ first.toNat < 0xE0)
    (tail : 0x80 ≤ second.toNat ∧ second.toNat ≤ 0xBF)
    (same : code = (first.toNat - 0xC0) * 64 + (second.toNat - 0x80)) :
    String.utf8EncodeChar (Char.ofNat code) = [first, second] := by
  have value : (Char.ofNat code).val.toNat = code := val_ofNat (.inl (by omega))
  rw [String.utf8EncodeChar, value, if_neg (by omega), if_pos (by omega)]
  simp only [List.cons.injEq, ← UInt8.toNat_inj, UInt8.toNat_ofNat', and_true]
  omega

/-- The codes of three octets leave out the numbers that shorter codes have, and the surrogates. -/
theorem code_of_three (lead : 0xE0 ≤ first.toNat ∧ first.toNat < 0xF0)
    (low : (if first.toNat = 0xE0 then 0xA0 else 0x80) ≤ second.toNat)
    (high : second.toNat ≤ if first.toNat = 0xED then 0x9F else 0xBF)
    (tail : 0x80 ≤ third.toNat ∧ third.toNat ≤ 0xBF)
    (same : code = ((first.toNat - 0xE0) * 64 + (second.toNat - 0x80)) * 64 +
      (third.toNat - 0x80)) :
    String.utf8EncodeChar (Char.ofNat code) = [first, second, third] := by
  have tailed : 0x80 ≤ second.toNat := by split at low <;> omega
  have least : 0x800 ≤ code := by split at low <;> omega
  have most : code < 0x10000 := by split at high <;> omega
  have valid : code.isValidChar := by
    by_cases before : code < 0xD800
    · exact .inl before
    · exact .inr ⟨by split at high <;> omega, by omega⟩
  rw [String.utf8EncodeChar, val_ofNat valid, if_neg (by omega), if_neg (by omega),
    if_pos (by omega)]
  simp only [List.cons.injEq, ← UInt8.toNat_inj, UInt8.toNat_ofNat', and_true]
  split at high <;> omega

/-- The codes of four octets end at the last letter. -/
theorem code_of_four (lead : 0xF0 ≤ first.toNat ∧ first.toNat ≤ 0xF4)
    (low : (if first.toNat = 0xF0 then 0x90 else 0x80) ≤ second.toNat)
    (high : second.toNat ≤ if first.toNat = 0xF4 then 0x8F else 0xBF)
    (tail : 0x80 ≤ third.toNat ∧ third.toNat ≤ 0xBF)
    (last : 0x80 ≤ fourth.toNat ∧ fourth.toNat ≤ 0xBF)
    (same : code = (((first.toNat - 0xF0) * 64 + (second.toNat - 0x80)) * 64 +
      (third.toNat - 0x80)) * 64 + (fourth.toNat - 0x80)) :
    String.utf8EncodeChar (Char.ofNat code) = [first, second, third, fourth] := by
  have tailed : 0x80 ≤ second.toNat := by split at low <;> omega
  have least : 0x10000 ≤ code := by split at low <;> omega
  have most : code < 0x110000 := by split at high <;> omega
  rw [String.utf8EncodeChar, val_ofNat (.inr ⟨by omega, most⟩), if_neg (by omega),
    if_neg (by omega), if_neg (by omega)]
  simp only [List.cons.injEq, ← UInt8.toNat_inj, UInt8.toNat_ofNat', and_true]
  split at high <;> omega

end Codes

section Leads

variable {first : UInt8}

theorem start_of_one (low : first.toNat < 0x80) :
    start first = (some (some (Char.ofNat first.toNat)), .nothing) := if_pos low

theorem start_of_two (lead : 0xC2 ≤ first.toNat ∧ first.toNat < 0xE0) :
    start first = (none, .partly (first.toNat - 0xC0) 0x80 0xBF 0) := by
  simp only [start]
  rw [if_neg (by omega), if_neg (by omega), if_pos (by omega)]

theorem start_of_three (lead : 0xE0 ≤ first.toNat ∧ first.toNat < 0xF0) :
    start first = (none, .partly (first.toNat - 0xE0) (if first.toNat = 0xE0 then 0xA0 else 0x80)
      (if first.toNat = 0xED then 0x9F else 0xBF) 1) := by
  simp only [start]
  rw [if_neg (by omega), if_neg (by omega), if_neg (by omega)]
  by_cases least : first.toNat = 0xE0
  · simp [least]
  · by_cases surrogate : first.toNat = 0xED
    · simp [surrogate]
    · simp [least, surrogate, lead.2]

theorem start_of_four (lead : 0xF0 ≤ first.toNat ∧ first.toNat ≤ 0xF4) :
    start first = (none, .partly (first.toNat - 0xF0) (if first.toNat = 0xF0 then 0x90 else 0x80)
      (if first.toNat = 0xF4 then 0x8F else 0xBF) 2) := by
  simp only [start]
  rw [if_neg (by omega), if_neg (by omega), if_neg (by omega), if_neg (by omega),
    if_neg (by omega), if_neg (by omega)]
  by_cases least : first.toNat = 0xF0
  · simp [least]
  · by_cases last : first.toNat = 0xF4
    · simp [last]
    · have between : first.toNat < 0xF4 := by omega
      simp [least, last, between]

/-- No letter has any other first octet. -/
theorem start_of_none (ill : (0x80 ≤ first.toNat ∧ first.toNat < 0xC2) ∨ 0xF4 < first.toNat) :
    start first = (some none, .nothing) := by
  simp only [start]
  rcases ill with low | high
  · rw [if_neg (by omega), if_pos (by omega)]
  · rw [if_neg (by omega), if_neg (by omega), if_neg (by omega), if_neg (by omega),
      if_neg (by omega), if_neg (by omega), if_neg (by omega), if_neg (by omega),
      if_neg (by omega)]

end Leads

section Scans

variable {value : Nat} {low high next : UInt8} {more : Nat} {rest : Octets}

theorem scan_start (octet : UInt8) (rest : Octets) :
    scan .nothing (octet :: rest) = (start octet).1.toList ++ scan (start octet).2 rest := rfl

/-- The last octet of a code ends its letter. -/
theorem scan_last (fits : low ≤ next ∧ next ≤ high) :
    scan (.partly value low high 0) (next :: rest) =
      some (Char.ofNat (value * 64 + (next.toNat - 0x80))) :: scan .nothing rest := by
  rw [scan, if_pos fits]

theorem scan_next (fits : low ≤ next ∧ next ≤ high) :
    scan (.partly value low high (more + 1)) (next :: rest) =
      scan (.partly (value * 64 + (next.toNat - 0x80)) 0x80 0xBF more) rest := by
  rw [scan, if_pos fits]

/-- An octet that does not continue a code begins the next one. -/
theorem scan_other (other : ¬ (low ≤ next ∧ next ≤ high)) :
    scan (.partly value low high more) (next :: rest) =
      none :: scan .nothing (next :: rest) := by
  cases more <;> simp [scan, other]

end Scans

/-- These octets were read of a code, and the state knows which octets complete it. -/
structure Reads (part : Octets) (value : Nat) (low high : UInt8) (more : Nat) : Prop where
  nonempty : part ≠ []
  begins : part.length = 1 ∨ Begins part
  scans : ∀ rest, scan .nothing (part ++ rest) = scan (.partly value low high more) rest
  spells : ∀ (next : UInt8) (tail : Octets), low ≤ next ∧ next ≤ high → tail.length = more →
    (∀ octet ∈ tail, 0x80 ≤ octet ∧ octet ≤ 0xBF) →
      String.utf8EncodeChar (Char.ofNat ((next :: tail).foldl
        (fun value octet => value * 64 + (octet.toNat - 0x80)) value)) = part ++ next :: tail

namespace Reads

variable {part : Octets} {value : Nat} {low high octet : UInt8} {more : Nat}

/-- One more octet is read. -/
theorem next (reads : Reads part value low high (more + 1)) (fits : low ≤ octet ∧ octet ≤ high) :
    Reads (part ++ [octet]) (value * 64 + (octet.toNat - 0x80)) 0x80 0xBF more where
  nonempty := by simp
  begins := by
    have whole := reads.spells octet (List.replicate (more + 1) 0x80) fits List.length_replicate
      (by simp)
    exact .inr ⟨_, List.replicate (more + 1) 0x80, by rw [whole]; simp⟩
  scans rest := by rw [List.append_assoc, reads.scans]; exact scan_next fits
  spells following tail inside length tails := by
    have whole := reads.spells octet (following :: tail) fits (by simp [length])
      (by simpa using ⟨inside, tails⟩)
    simpa using whole

end Reads

theorem reads_two {first : UInt8} (lead : 0xC2 ≤ first.toNat ∧ first.toNat < 0xE0) :
    Reads [first] (first.toNat - 0xC0) 0x80 0xBF 0 where
  nonempty := by simp
  begins := .inl rfl
  scans rest := by rw [List.singleton_append, scan_start, start_of_two lead]; rfl
  spells next tail fits length _ := by
    rw [List.length_eq_zero_iff.1 length]
    exact code_of_two lead (by simpa [UInt8.le_iff_toNat_le] using fits) rfl

theorem reads_three {first : UInt8} (lead : 0xE0 ≤ first.toNat ∧ first.toNat < 0xF0) :
    Reads [first] (first.toNat - 0xE0) (if first.toNat = 0xE0 then 0xA0 else 0x80)
      (if first.toNat = 0xED then 0x9F else 0xBF) 1 where
  nonempty := by simp
  begins := .inl rfl
  scans rest := by rw [List.singleton_append, scan_start, start_of_three lead]; rfl
  spells next tail fits length tails := by
    obtain ⟨third, rfl⟩ := List.length_eq_one_iff.1 length
    simp only [UInt8.le_iff_toNat_le, apply_ite UInt8.toNat] at fits tails
    exact code_of_three lead fits.1 fits.2 (tails third List.mem_cons_self) rfl

theorem reads_four {first : UInt8} (lead : 0xF0 ≤ first.toNat ∧ first.toNat ≤ 0xF4) :
    Reads [first] (first.toNat - 0xF0) (if first.toNat = 0xF0 then 0x90 else 0x80)
      (if first.toNat = 0xF4 then 0x8F else 0xBF) 2 where
  nonempty := by simp
  begins := .inl rfl
  scans rest := by rw [List.singleton_append, scan_start, start_of_four lead]; rfl
  spells next tail fits length tails := by
    obtain ⟨third, fourth, rfl⟩ := List.length_eq_two.1 length
    simp only [UInt8.le_iff_toNat_le, apply_ite UInt8.toNat] at fits tails
    exact code_of_four lead fits.1 fits.2 (tails third (by simp)) (tails fourth (by simp)) rfl

theorem toNat_ofNat {value : Nat} (small : value < 256) : (UInt8.ofNat value).toNat = value :=
  UInt8.toNat_ofNat_of_lt' small

/-- A letter is decoded where its code stands. -/
theorem scan_letter (letter : Char) (rest : Octets) :
    scan .nothing (String.utf8EncodeChar letter ++ rest) = some letter :: scan .nothing rest := by
  have valid : letter.val.toNat < 0xD800 ∨ 0xDFFF < letter.val.toNat ∧
    letter.val.toNat < 0x110000 := letter.valid
  have same : Char.ofNat letter.val.toNat = letter := Char.ofNat_toNat letter
  have tailed (value : Nat) : 0x80 ≤ UInt8.ofNat (value % 64 + 128) ∧
      UInt8.ofNat (value % 64 + 128) ≤ 0xBF := by
    rw [UInt8.le_iff_toNat_le, UInt8.le_iff_toNat_le, toNat_ofNat (by omega)]
    exact ⟨Nat.le_add_left .., show _ ≤ 191 by omega⟩
  have tail (value : Nat) : (UInt8.ofNat (value % 64 + 128)).toNat = value % 64 + 128 :=
    toNat_ofNat (by omega)
  rw [String.utf8EncodeChar]
  generalize letter.val.toNat = code at valid same ⊢
  split
  case isTrue one =>
    have first : (UInt8.ofNat code).toNat = code := toNat_ofNat (by omega)
    rw [List.singleton_append, scan_start, start_of_one (by omega), first, same]
    rfl
  split
  case isTrue two =>
    have first : (UInt8.ofNat (code / 64 % 32 + 192)).toNat = code / 64 % 32 + 192 :=
      toNat_ofNat (by omega)
    have whole : (code / 64 % 32 + 192 - 0xC0) * 64 + (code % 64 + 128 - 0x80) = code := by omega
    simp only [List.cons_append, List.nil_append]
    rw [scan_start, start_of_two (by omega), scan_last (tailed code), first, tail, whole, same]
    rfl
  split
  case isTrue three =>
    have first : (UInt8.ofNat (code / 4096 % 16 + 224)).toNat = code / 4096 % 16 + 224 :=
      toNat_ofNat (by omega)
    have whole : ((code / 4096 % 16 + 224 - 0xE0) * 64 + (code / 64 % 64 + 128 - 0x80)) * 64 +
      (code % 64 + 128 - 0x80) = code := by omega
    simp only [List.cons_append, List.nil_append]
    rw [scan_start, start_of_three (by omega), scan_next, scan_last (tailed code), first, tail, tail,
      whole, same]
    · rfl
    · rw [UInt8.le_iff_toNat_le, UInt8.le_iff_toNat_le, first, tail]
      constructor <;> split <;> simp only [UInt8.reduceToNat] <;> omega
  case isFalse four =>
    have first : (UInt8.ofNat (code / 262144 % 8 + 240)).toNat = code / 262144 % 8 + 240 :=
      toNat_ofNat (by omega)
    have whole : (((code / 262144 % 8 + 240 - 0xF0) * 64 + (code / 4096 % 64 + 128 - 0x80)) * 64 +
      (code / 64 % 64 + 128 - 0x80)) * 64 + (code % 64 + 128 - 0x80) = code := by omega
    simp only [List.cons_append, List.nil_append]
    rw [scan_start, start_of_four (by omega), scan_next, scan_next (tailed (code / 64)),
      scan_last (tailed code), first, tail, tail, tail, whole, same]
    · rfl
    · rw [UInt8.le_iff_toNat_le, UInt8.le_iff_toNat_le, first, tail]
      constructor <;> split <;> simp only [UInt8.reduceToNat] <;> omega

namespace Reads

variable {part rest : Octets} {value : Nat} {low high octet : UInt8} {more : Nat}

/-- No letter goes on with an octet that the state does not expect. -/
theorem not_begins (reads : Reads part value low high more)
    (other : ¬ (low ≤ octet ∧ octet ≤ high)) : ¬ Begins (part ++ [octet]) := by
  rintro ⟨letter, tail, whole⟩
  have scanned := scan_letter letter []
  rw [← whole, List.append_nil, List.append_assoc, reads.scans, List.singleton_append,
    scan_other other] at scanned
  cases scanned

theorem ne_code (reads : Reads part value low high more) (letter : Char) :
    part ≠ String.utf8EncodeChar letter := by
  intro whole
  have scanned := scan_letter letter []
  rw [← whole, reads.scans] at scanned
  cases more <;> cases scanned

end Reads

/-- The text of some found letters has a replacement character for each part that is none. -/
def letters (found : List (Option Char)) : List Char :=
  found.map fun letter => letter.getD (Char.ofNat 0xFFFD)

theorem letters_some (letter : Char) (found : List (Option Char)) :
    letters (some letter :: found) = letter :: letters found := rfl

/-- An unfinished code is completed, or it is replaced. -/
theorem Reads.decodes {part rest : Octets} {value : Nat} {low high : UInt8} {more : Nat}
    (reads : Reads part value low high more)
    (later : ∀ tail, tail <:+ rest → Decodes tail (letters (scan .nothing tail))) :
    Decodes (part ++ rest) (letters (scan (.partly value low high more) rest)) := by
  induction rest generalizing part value low high more with
  | nil =>
      have ended : scan (.partly value low high more) [] = none :: scan .nothing [] := by
        cases more <;> rfl
      rw [ended]
      exact .replaced ⟨reads.nonempty, reads.ne_code, reads.begins, by simp⟩
        (later [] List.suffix_rfl)
  | cons octet rest inductionHypothesis =>
      have shorter (tail : Octets) (ends : tail <:+ rest) :
          Decodes tail (letters (scan .nothing tail)) :=
        later tail (ends.trans (List.suffix_cons octet rest))
      by_cases fits : low ≤ octet ∧ octet ≤ high
      · cases more with
        | zero =>
            have found := Decodes.letter (Char.ofNat (value * 64 + (octet.toNat - 0x80)))
              (shorter rest List.suffix_rfl)
            have whole : String.utf8EncodeChar (Char.ofNat (value * 64 + (octet.toNat - 0x80))) =
                part ++ [octet] := reads.spells octet [] fits rfl (by simp)
            rw [whole] at found
            rwa [scan_last fits, List.append_cons, letters_some]
        | succ more =>
            rw [scan_next fits, List.append_cons]
            exact inductionHypothesis (reads.next fits) shorter
      · rw [scan_other fits]
        have longest (next : UInt8) (first : (octet :: rest).head? = some next) :
            ¬ Begins (part ++ [next]) := by
          cases first
          exact reads.not_begins fits
        exact .replaced ⟨reads.nonempty, reads.ne_code, reads.begins, longest⟩
          (later _ List.suffix_rfl)

theorem decodes_scan (octets : Octets) : Decodes octets (letters (scan .nothing octets)) := by
  induction length : octets.length using Nat.strong_induction_on generalizing octets with
  | h count inductionHypothesis =>
  cases octets with
  | nil => exact .nothing
  | cons first rest =>
      have later (tail : Octets) (ends : tail <:+ rest) :
          Decodes tail (letters (scan .nothing tail)) := by
        refine inductionHypothesis tail.length ?_ tail rfl
        have bound := ends.length_le
        rw [← length, List.length_cons]
        omega
      have unfinished {value : Nat} {low high : UInt8} {more : Nat}
          (reads : Reads [first] value low high more) :
          Decodes (first :: rest) (letters (scan .nothing (first :: rest))) := by
        have scanned : scan .nothing (first :: rest) = _ := reads.scans rest
        rw [scanned]
        exact reads.decodes later
      by_cases one : first.toNat < 0x80
      · have code := code_of_one one
        have found := Decodes.letter (Char.ofNat first.toNat) (later rest List.suffix_rfl)
        rw [code] at found
        rwa [scan_start, start_of_one one]
      by_cases two : 0xC2 ≤ first.toNat ∧ first.toNat < 0xE0
      · exact unfinished (reads_two two)
      by_cases three : 0xE0 ≤ first.toNat ∧ first.toNat < 0xF0
      · exact unfinished (reads_three three)
      by_cases four : 0xF0 ≤ first.toNat ∧ first.toNat ≤ 0xF4
      · exact unfinished (reads_four four)
      have ill : start first = _ := start_of_none (by omega)
      have scanned (rest : Octets) :
          scan .nothing (first :: rest) = none :: scan .nothing rest := by
        rw [scan_start, ill]
        rfl
      have alone : IllFormed [first] rest := by
        refine ⟨by simp, ?_, .inl rfl, ?_⟩
        · intro letter whole
          have found := scan_letter letter []
          rw [← whole, List.append_nil, scanned] at found
          cases found
        · rintro next - ⟨letter, tail, whole⟩
          have found := scan_letter letter []
          rw [← whole, List.append_nil] at found
          cases (scanned _).symm.trans found
      rw [scanned]
      exact .replaced alone (later rest List.suffix_rfl)

section Unique

theorem code_ne_nil (letter : Char) : String.utf8EncodeChar letter ≠ [] := by
  intro empty
  have found := scan_letter letter []
  rw [empty] at found
  cases found

/-- No code begins with another code. -/
theorem eq_of_code_front {letter other : Char}
    (begins : String.utf8EncodeChar letter <+: String.utf8EncodeChar other) : letter = other := by
  obtain ⟨tail, whole⟩ := begins
  have found := scan_letter other []
  rw [← whole, List.append_nil, scan_letter] at found
  injection found with same
  injection same

theorem Begins.shorter {part more : Octets} (begins : Begins more) (front : part <+: more) :
    Begins part := begins.imp fun _ whole => front.trans whole

namespace IllFormed

variable {part other rest tail : Octets}

/-- What is longer than one octet begins a letter. -/
theorem begins_of_longer (illFormed : IllFormed other tail) (nonempty : part ≠ []) {next : UInt8}
    {more : Octets} (longer : other = part ++ next :: more) : Begins other := by
  refine illFormed.begins.resolve_left fun single => ?_
  have length := congrArg List.length longer
  have positive := List.length_pos_iff.2 nonempty
  rw [single, List.length_append, List.length_cons] at length
  omega

/-- Where the code of a letter stands, nothing is replaced. -/
theorem ne_letter (illFormed : IllFormed part rest) (letter : Char) (more : Octets) :
    part ++ rest ≠ String.utf8EncodeChar letter ++ more := by
  intro same
  rcases List.append_eq_append_iff.1 same with ⟨others, code, later⟩ | ⟨others, whole, -⟩
  · cases others with
    | nil => exact illFormed.unfinished letter (code.trans (List.append_nil part)).symm
    | cons next others =>
        refine illFormed.longest next (by rw [later]; rfl) ⟨letter, others, ?_⟩
        rw [code, List.append_assoc, List.singleton_append]
  · cases others with
    | nil => exact illFormed.unfinished letter (whole.trans (List.append_nil _))
    | cons next others =>
        obtain ⟨longer, begins⟩ := illFormed.begins_of_longer (code_ne_nil letter) whole
        have front : String.utf8EncodeChar letter <+: part := ⟨_, whole.symm⟩
        have bound := begins.length_le
        rw [← eq_of_code_front (front.trans begins), whole, List.length_append,
          List.length_cons] at bound
        omega

/-- Of two parts that are replaced at the same place, none goes on behind the other. -/
theorem not_longer (illFormed : IllFormed part rest) (longer : IllFormed other tail)
    {next : UInt8} {more : Octets} (whole : other = part ++ next :: more)
    (first : rest.head? = some next) : False := by
  refine illFormed.longest next first
    ((longer.begins_of_longer illFormed.nonempty whole).shorter ⟨more, ?_⟩)
  rw [whole, List.append_assoc, List.singleton_append]

theorem unique (illFormed : IllFormed part rest) (another : IllFormed other tail)
    (same : part ++ rest = other ++ tail) : part = other ∧ rest = tail := by
  rcases List.append_eq_append_iff.1 same with ⟨others, whole, later⟩ | ⟨others, whole, later⟩
  · cases others with
    | nil => exact ⟨by simpa using whole.symm, by simpa using later⟩
    | cons next others =>
        exact (illFormed.not_longer another whole (by rw [later]; rfl)).elim
  · cases others with
    | nil => exact ⟨by simpa using whole, by simpa using later.symm⟩
    | cons next others =>
        exact (another.not_longer illFormed whole (by rw [later]; rfl)).elim

end IllFormed

theorem Decodes.unique {octets : Octets} {letters others : List Char}
    (decodes : Decodes octets letters) (other : Decodes octets others) : letters = others := by
  induction decodes generalizing others with
  | nothing =>
      generalize empty : ([] : Octets) = octets at other
      cases other with
      | nothing => rfl
      | letter letter => exact absurd (List.append_eq_nil_iff.1 empty.symm).1 (code_ne_nil letter)
      | replaced illFormed =>
          exact absurd (List.append_eq_nil_iff.1 empty.symm).1 illFormed.nonempty
  | @letter letter rest letters _ inductionHypothesis =>
      generalize same : String.utf8EncodeChar letter ++ rest = octets at other
      cases other with
      | nothing => exact absurd (List.append_eq_nil_iff.1 same).1 (code_ne_nil letter)
      | letter second decodes =>
          have equal : letter = second := by
            rcases List.append_eq_append_iff.1 same with ⟨_, whole, -⟩ | ⟨_, whole, -⟩
            · exact eq_of_code_front ⟨_, whole.symm⟩
            · exact (eq_of_code_front ⟨_, whole.symm⟩).symm
          subst equal
          rw [inductionHypothesis (List.append_cancel_left same ▸ decodes)]
      | replaced illFormed => exact absurd same.symm (illFormed.ne_letter letter rest)
  | @replaced part rest letters illFormed _ inductionHypothesis =>
      generalize same : part ++ rest = octets at other
      cases other with
      | nothing => exact absurd (List.append_eq_nil_iff.1 same).1 illFormed.nonempty
      | letter letter => exact absurd same (illFormed.ne_letter letter _)
      | replaced another decodes =>
          obtain ⟨rfl, rfl⟩ := illFormed.unique another same
          rw [inductionHypothesis decodes]

end Unique

/-- The decoder decodes, and in the only way. -/
theorem decodes_iff {octets : Octets} {letters : List Char} :
    Decodes octets letters ↔ letters = (decodeLossy octets).toList := by
  have decodes : Decodes octets (decodeLossy octets).toList := by
    rw [decodeLossy, String.toList_ofList]
    exact decodes_scan octets
  constructor
  · intro other
    exact other.unique decodes
  · rintro rfl
    exact decodes

end Screencast.Text.Utf8
