/-
This file reads JSON texts and shows that every text of the grammar is read as its value.
-/

import Screencast.Proofs.Text.Grammar
import Screencast.Proofs.Text.Lines

namespace Screencast.Text.Json

def skip (letters : List Char) : List Char := letters.dropWhile isSpace

/-- This is what stands behind some letters. -/
def after? (mark letters : List Char) : Option (List Char) :=
  if mark.isPrefixOf letters then some (letters.drop mark.length) else none

/-- A hexadecimal digit may be a small or a capital letter. -/
def hexValue? (letter : Char) : Option Nat :=
  if 48 ≤ letter.toNat ∧ letter.toNat ≤ 57 then some (letter.toNat - 48)
  else if 97 ≤ letter.toNat ∧ letter.toNat ≤ 102 then some (letter.toNat - 87)
  else if 65 ≤ letter.toNat ∧ letter.toNat ≤ 70 then some (letter.toNat - 55)
  else none

/-- Four hexadecimal digits spell a unit of sixteen bits. -/
def unit? : List Char → Option (Nat × List Char)
  | first :: second :: third :: fourth :: rest => do
      let high := (← hexValue? first) * 16 + (← hexValue? second)
      let low := (← hexValue? third) * 16 + (← hexValue? fourth)
      return (high * 256 + low, rest)
  | _ => none

/-- A letter outside the first sixteen bits is spelled by two units, and neither of them spells a
letter alone. -/
def unicode? (letters : List Char) : Option (Char × List Char) := do
  let (first, rest) ← unit? letters
  if 0xD800 ≤ first ∧ first < 0xDC00 then
    let (second, rest) ← (after? ['\\', 'u'] rest).bind unit?
    if 0xDC00 ≤ second ∧ second < 0xE000 then
      return (Char.ofNat (0x10000 + (first - 0xD800) * 0x400 + (second - 0xDC00)), rest)
    else none
  else if 0xDC00 ≤ first ∧ first < 0xE000 then none
  else return (Char.ofNat first, rest)

/-- A letter behind a backslash may stand for another one. -/
def short? (letter : Char) : Option Char :=
  if letter = '\"' ∨ letter = '\\' ∨ letter = '/' then some letter
  else if letter = 'b' then some '\x08'
  else if letter = 'f' then some '\x0c'
  else if letter = 'n' then some '\n'
  else if letter = 'r' then some '\r'
  else if letter = 't' then some '\t'
  else none

/-- This reads the letter that is spelled behind a backslash. -/
def escaped? : List Char → Option (Char × List Char)
  | [] => none
  | kind :: rest => if kind = 'u' then unicode? rest else (short? kind).map (·, rest)

/-- This reads one letter of a string. A quote and the controls do not stand for themselves. -/
def letter? : List Char → Option (Char × List Char)
  | [] => none
  | first :: rest =>
      if first = '\\' then escaped? rest
      else if first = '\"' ∨ first.toNat < 0x20 then none
      else some (first, rest)

theorem after?_shorter {mark letters rest : List Char} (read : after? mark letters = some rest) :
    rest.length ≤ letters.length := by
  obtain ⟨-, taken⟩ := Option.ite_none_right_eq_some.1 read
  obtain rfl := Option.some.inj taken
  rw [List.length_drop]
  exact Nat.sub_le _ _

theorem unit?_shorter {letters rest : List Char} {unit : Nat}
    (read : unit? letters = some (unit, rest)) : rest.length < letters.length := by
  unfold unit? at read
  split at read
  · simp only [Option.bind_eq_bind, Option.bind_eq_some_iff, Option.pure_def,
      Option.some.injEq, Prod.mk.injEq] at read
    obtain ⟨_, -, _, -, _, -, _, -, -, rfl⟩ := read
    simp only [List.length_cons]
    omega
  · cases read

theorem unicode?_shorter {letters rest : List Char} {letter : Char}
    (read : unicode? letters = some (letter, rest)) : rest.length < letters.length := by
  obtain ⟨⟨first, behind⟩, unit, spelled⟩ := Option.bind_eq_some_iff.1 read
  have shorter := unit?_shorter unit
  dsimp only at spelled
  split at spelled
  · obtain ⟨⟨second, last⟩, other, pair⟩ := Option.bind_eq_some_iff.1 spelled
    obtain ⟨next, marked, unit⟩ := Option.bind_eq_some_iff.1 other
    have behindMark := after?_shorter marked
    have last := unit?_shorter unit
    obtain ⟨-, done⟩ := Option.ite_none_right_eq_some.1 pair
    obtain ⟨-, rfl⟩ := Prod.mk.inj (Option.some.inj done)
    exact Nat.lt_trans last (Nat.lt_of_le_of_lt behindMark shorter)
  · obtain ⟨-, done⟩ := Option.ite_none_left_eq_some.1 spelled
    obtain ⟨-, rfl⟩ := Prod.mk.inj (Option.some.inj done)
    exact shorter

theorem escaped?_shorter {letters rest : List Char} {letter : Char}
    (read : escaped? letters = some (letter, rest)) : rest.length < letters.length := by
  cases letters with
  | nil => cases read
  | cons kind letters =>
      rw [escaped?] at read
      split at read
      · exact Nat.lt_succ_of_lt (unicode?_shorter read)
      · obtain ⟨_, -, pair⟩ := Option.map_eq_some_iff.1 read
        obtain ⟨-, rfl⟩ := Prod.mk.inj pair
        exact Nat.lt_succ_self _

/-- Every letter of a string takes at least one letter of its text. -/
theorem letter?_shorter {letters rest : List Char} {letter : Char}
    (read : letter? letters = some (letter, rest)) : rest.length < letters.length := by
  cases letters with
  | nil => cases read
  | cons first letters =>
      rw [letter?] at read
      split at read
      · exact Nat.lt_succ_of_lt (escaped?_shorter read)
      · obtain ⟨-, done⟩ := Option.ite_none_left_eq_some.1 read
        obtain ⟨-, rfl⟩ := Prod.mk.inj (Option.some.inj done)
        exact Nat.lt_succ_self _

/-- This reads the letters of a string up to its closing quote. -/
def readLetters (letters : List Char) : Option (List Char × List Char) :=
  if letters.head? = some '\"' then some ([], letters.tail)
  else
    match _ : letter? letters with
    | none => none
    | some (letter, rest) => (readLetters rest).map fun others => (letter :: others.1, others.2)
termination_by letters.length
decreasing_by exact letter?_shorter (by assumption)

def readString (letters : List Char) : Option (String × List Char) := do
  let (content, rest) ← (after? ['\"'] letters).bind readLetters
  return (String.ofList content, rest)

/-- A number has no needless zero in front. One with a fraction or an exponent is not read. -/
def readNumber (letters : List Char) : Option (Nat × List Char) :=
  let digits := letters.takeWhile Char.isDigit
  let rest := letters.dropWhile Char.isDigit
  if digits.head? = some '0' ∧ digits ≠ ['0'] then none
  else if rest.head? = some '.' ∨ rest.head? = some 'e' ∨ rest.head? = some 'E' then none
  else (decimal? digits).map (·, rest)

mutual

/-- The first letter tells what kind of value follows. There is room for so many values inside each
other and fields one after the other. -/
def readValue : Nat → List Char → Option (Value × List Char)
  | 0, _ => none
  | room + 1, letters =>
      if letters.head? = some '\"' then
        (readString letters).map fun read => (.string read.1, read.2)
      else if letters.head? = some '\x7b' then
        match after? ['\x7d'] (skip letters.tail) with
        | some rest => some (.object [], rest)
        | none => (readFields room (skip letters.tail)).map fun read => (.object read.1, read.2)
      else if letters.head? = some 't' then
        (after? "true".toList letters).map fun rest => (.boolean true, rest)
      else if letters.head? = some 'f' then
        (after? "false".toList letters).map fun rest => (.boolean false, rest)
      else (readNumber letters).map fun read => (.number read.1, read.2)

/-- A name and its value are separated by a colon, and a comma stands between two fields. -/
def readFields : Nat → List Char → Option (List (String × Value) × List Char)
  | 0, _ => none
  | room + 1, letters => do
      let (name, rest) ← readString letters
      let rest ← after? [':'] (skip rest)
      let (value, rest) ← readValue room (skip rest)
      match after? [','] (skip rest) with
      | some rest =>
          let (fields, rest) ← readFields room (skip rest)
          return ((name, value) :: fields, rest)
      | none =>
          let rest ← after? ['\x7d'] (skip rest)
          return ([(name, value)], rest)

end

/-- A text is one value, and only white space may follow it. -/
def read? (text : String) : Option Value := do
  let letters := skip text.toList
  let (value, rest) ← readValue letters.length letters
  if skip rest = [] then return value else none

section Strings

theorem after?_append (mark rest : List Char) : after? mark (mark ++ rest) = some rest := by
  simp [after?]

theorem after?_of_head_ne {mark first : Char} (distinct : first ≠ mark) (rest : List Char) :
    after? [mark] (first :: rest) = none := by
  simp [after?, Ne.symm distinct]

theorem hexValue?_of_hexadecimal {letter : Char} {value : Nat} (digit : Hexadecimal letter value) :
    hexValue? letter = some value := by
  have read {digits : List Char} (sixteen : digits.length = 16)
      (all : ∀ value : Fin 16, digits[value.val]?.bind hexValue? = some value.val)
      (digit : digits[value]? = some letter) : hexValue? letter = some value := by
    obtain ⟨inside, -⟩ := List.getElem?_eq_some_iff.1 digit
    have valued := all ⟨value, sixteen ▸ inside⟩
    rwa [digit] at valued
  rcases digit with small | capital
  · exact read rfl (by decide) small
  · exact read rfl (by decide) capital

theorem unit?_of_codeUnit {unit : Nat} {digits : List Char} (spelled : CodeUnit unit digits)
    (rest : List Char) : unit? (digits ++ rest) = some (unit, rest) := by
  cases spelled with
  | @digits _ _ _ _ a b c d one two three four =>
      have whole : (a * 16 + b) * 256 + (c * 16 + d) = ((a * 16 + b) * 16 + c) * 16 + d := by omega
      simp [unit?, hexValue?_of_hexadecimal one, hexValue?_of_hexadecimal two,
        hexValue?_of_hexadecimal three, hexValue?_of_hexadecimal four, whole]

theorem unicode?_single {letter : Char} {digits : List Char}
    (single : CodeUnit letter.toNat digits) (rest : List Char) :
    unicode? (digits ++ rest) = some (letter, rest) := by
  -- no letter has the number of one half of a pair
  have alone : ¬ (0xD800 ≤ letter.toNat ∧ letter.toNat < 0xDC00) ∧
      ¬ (0xDC00 ≤ letter.toNat ∧ letter.toNat < 0xE000) := by
    have valid : letter.toNat < 0xD800 ∨ 0xDFFF < letter.toNat ∧ letter.toNat < 0x110000 :=
      letter.valid
    omega
  rw [unicode?, unit?_of_codeUnit single]
  simp [alone.1, alone.2]

theorem unicode?_pair {letter : Char} {high low : List Char} (large : 0x10000 ≤ letter.toNat)
    (first : CodeUnit (0xD800 + (letter.toNat - 0x10000) / 0x400) high)
    (second : CodeUnit (0xDC00 + (letter.toNat - 0x10000) % 0x400) low) (rest : List Char) :
    unicode? (high ++ '\\' :: 'u' :: (low ++ rest)) = some (letter, rest) := by
  have valid : letter.toNat < 0xD800 ∨ 0xDFFF < letter.toNat ∧ letter.toNat < 0x110000 :=
    letter.valid
  have upper : 0xD800 ≤ 0xD800 + (letter.toNat - 0x10000) / 0x400 ∧
      0xD800 + (letter.toNat - 0x10000) / 0x400 < 0xDC00 := by omega
  have lower : 0xDC00 ≤ 0xDC00 + (letter.toNat - 0x10000) % 0x400 ∧
      0xDC00 + (letter.toNat - 0x10000) % 0x400 < 0xE000 := by omega
  have joined : 0x10000 + (0xD800 + (letter.toNat - 0x10000) / 0x400 - 0xD800) * 0x400 +
      (0xDC00 + (letter.toNat - 0x10000) % 0x400 - 0xDC00) = letter.toNat := by omega
  have marked : after? ['\\', 'u'] ('\\' :: 'u' :: (low ++ rest)) = some (low ++ rest) :=
    after?_append ['\\', 'u'] (low ++ rest)
  rw [unicode?, unit?_of_codeUnit first, Option.bind_eq_bind, Option.bind_some]
  dsimp only
  rw [if_pos upper, marked, Option.bind_some, unit?_of_codeUnit second, Option.bind_some]
  dsimp only
  rw [if_pos lower, joined, Char.ofNat_toNat]
  rfl

/-- Every letter is read back from each of its spellings. -/
theorem letter?_of_spelling {letter : Char} {spelled : List Char}
    (spelling : Spelling letter spelled) (rest : List Char) :
    letter? (spelled ++ rest) = some (letter, rest) := by
  cases spelling with
  | plain unquoted slashless visible => simp [letter?, unquoted, slashless, visible]
  | @short mark _ form =>
      have all : ∀ form ∈ shortForms, form.1 ≠ 'u' ∧ short? form.1 = some form.2 := by decide
      obtain ⟨single, read⟩ := all _ form
      have shown : letter? ('\\' :: mark :: rest) = (short? mark).map (·, rest) := if_neg single
      exact shown.trans (congrArg (Option.map (·, rest)) read)
  | unit single => exact unicode?_single single rest
  | pair large first second =>
      have read := unicode?_pair large first second rest
      rw [List.cons_append, List.cons_append, List.append_assoc]
      exact read

theorem readLetters_of_letter {letters rest : List Char} {letter : Char}
    (read : letter? letters = some (letter, rest)) :
    readLetters letters =
      (readLetters rest).map fun others => (letter :: others.1, others.2) := by
  have unfinished : letters.head? ≠ some '\"' := by
    intro quote
    obtain ⟨behind, rfl⟩ := List.head?_eq_some_iff.1 quote
    simp [letter?] at read
  rw [readLetters, if_neg unfinished]
  split
  case h_1 missing => exact absurd (missing.symm.trans read) (by simp)
  case h_2 found =>
    obtain ⟨rfl, rfl⟩ := Prod.mk.inj (Option.some.inj (found.symm.trans read))
    rfl

theorem readLetters_of_spellings {content letters : List Char}
    (spelled : Spellings content letters) (rest : List Char) :
    readLetters (letters ++ '\"' :: rest) = some (content, rest) := by
  induction spelled with
  | nil =>
      rw [List.nil_append, readLetters]
      exact if_pos rfl
  | cons first others inductionHypothesis =>
      rw [List.append_assoc, readLetters_of_letter (letter?_of_spelling first _),
        inductionHypothesis]
      rfl

theorem readString_of_inQuotes {text : String} {letters : List Char}
    (quoted : InQuotes text letters) (rest : List Char) :
    readString (letters ++ rest) = some (text, rest) := by
  cases quoted with
  | @quoted letters spelled =>
      have opened : after? ['\"'] ('\"' :: (letters ++ ['\"']) ++ rest) =
          some (letters ++ '\"' :: rest) := by
        rw [List.cons_append, List.append_assoc]
        exact after?_append ['\"'] _
      rw [readString, opened, Option.bind_some, readLetters_of_spellings spelled]
      simp

end Strings

section Numbers

/-- A number ends where no letter follows that could belong to it. -/
def Ends (rest : List Char) : Prop :=
  ∀ letter, rest.head? = some letter → letter = ',' ∨ letter = '\x7d' ∨ isSpace letter = true

/-- No white space is a digit, a point or the mark of an exponent. -/
theorem Ends.stop {rest : List Char} (ends : Ends rest) {letter : Char}
    (first : rest.head? = some letter) :
    letter.isDigit = false ∧ letter ≠ '.' ∧ letter ≠ 'e' ∧ letter ≠ 'E' := by
  rcases ends letter first with rfl | rfl | space
  · decide
  · decide
  · simp only [isSpace, Bool.or_eq_true, decide_eq_true_eq] at space
    rcases space with ((rfl | rfl) | rfl) | rfl <;> decide

theorem readNumber_written (value : Nat) {rest : List Char} (ends : Ends rest) :
    readNumber ((toString value).toList ++ rest) = some (value, rest) := by
  have digits : ∀ letter ∈ (toString value).toList, letter.isDigit = true := by
    intro letter member
    exact isDigit_of_mem_toString member
  have stop : ∀ letter, rest.head? = some letter → letter.isDigit = false := by
    intro letter first
    exact (ends.stop first).1
  have unpadded :
      ¬ ((toString value).toList.head? = some '0' ∧ (toString value).toList ≠ ['0']) := by
    rintro ⟨zero, longer⟩
    rw [eq_zero_of_head?_toString zero] at longer
    exact longer rfl
  have natural : ¬ (rest.head? = some '.' ∨ rest.head? = some 'e' ∨ rest.head? = some 'E') := by
    rintro (point | small | capital)
    · exact (ends.stop point).2.1 rfl
    · exact (ends.stop small).2.2.1 rfl
    · exact (ends.stop capital).2.2.2 rfl
  rw [readNumber, takeWhile_append_of_stop digits stop, dropWhile_append_of_stop digits stop]
  rw [if_neg unpadded, if_neg natural, decimal?_toString]
  rfl

end Numbers

section Gaps

/-- Here a token begins. -/
def Solid (letters : List Char) : Prop :=
  ∃ first rest, letters = first :: rest ∧ isSpace first = false

theorem Solid.append {letters : List Char} (solid : Solid letters) (rest : List Char) :
    Solid (letters ++ rest) := by
  obtain ⟨first, others, rfl, visible⟩ := solid
  exact ⟨first, others ++ rest, rfl, visible⟩

theorem skip_gap {gap letters : List Char} (blank : Blank gap) (solid : Solid letters) :
    skip (gap ++ letters) = letters := by
  obtain ⟨first, rest, rfl, visible⟩ := solid
  apply dropWhile_append_of_stop blank
  intro letter head
  rw [← Option.some.inj head]
  exact visible

/-- A number may be followed by white space and then by a mark. -/
theorem ends_gap {gap : List Char} (blank : Blank gap) {mark : Char}
    (separator : mark = ',' ∨ mark = '\x7d') (rest : List Char) : Ends (gap ++ mark :: rest) := by
  intro letter first
  cases gap with
  | nil =>
      obtain rfl := Option.some.inj first
      exact separator.imp_right .inl
  | cons space gap =>
      obtain rfl := Option.some.inj first
      exact .inr (.inr (blank space List.mem_cons_self))

theorem InQuotes.opens {text : String} {letters : List Char} (quoted : InQuotes text letters) :
    ∃ others, letters = '\"' :: others := by
  cases quoted with
  | quoted => exact ⟨_, rfl⟩

theorem Fields.opens {fields : List (String × Value)} {letters : List Char}
    (members : Fields fields letters) : ∃ others, letters = '\"' :: others := by
  have field {field : String × Value} {letters : List Char} (member : Field field letters) :
      ∃ others, letters = '\"' :: others := by
    cases member with
    | named spelled =>
        obtain ⟨others, rfl⟩ := spelled.opens
        exact ⟨_, rfl⟩
  cases members with
  | last only =>
      obtain ⟨others, rfl⟩ := field only
      exact ⟨_, rfl⟩
  | more first =>
      obtain ⟨others, rfl⟩ := field first
      exact ⟨_, rfl⟩

theorem Fields.solid {fields : List (String × Value)} {letters : List Char}
    (members : Fields fields letters) : Solid letters := by
  obtain ⟨others, rfl⟩ := members.opens
  exact ⟨_, _, rfl, by decide⟩

theorem exists_digit (value : Nat) :
    ∃ first rest, (toString value).toList = first :: rest ∧ first.isDigit = true := by
  obtain ⟨first, rest, digits⟩ := List.exists_cons_of_ne_nil (toString_ne_nil value)
  exact ⟨first, rest, digits, isDigit_of_mem_toString (digits ▸ List.mem_cons_self)⟩

theorem Written.solid {value : Value} {letters : List Char} (written : Written value letters) :
    Solid letters := by
  cases written with
  | string quoted =>
      obtain ⟨others, rfl⟩ := quoted.opens
      exact ⟨_, _, rfl, by decide⟩
  | empty | object => exact ⟨_, _, rfl, by decide⟩
  | boolean value => cases value <;> exact ⟨_, _, rfl, by decide⟩
  | number value =>
      obtain ⟨first, others, digits, digit⟩ := exists_digit value
      refine ⟨first, others, digits, ?_⟩
      apply Bool.eq_false_iff.2
      intro space
      simp only [isSpace, Bool.or_eq_true, decide_eq_true_eq] at space
      rcases space with ((rfl | rfl) | rfl) | rfl <;> exact absurd digit (by decide)

end Gaps

section Values

variable {room : Nat} {rest : List Char}

theorem readValue_string {text : String} {letters : List Char} (quoted : InQuotes text letters) :
    readValue (room + 1) (letters ++ rest) = some (.string text, rest) := by
  have read := readString_of_inQuotes quoted rest
  obtain ⟨others, rfl⟩ := quoted.opens
  rw [readValue, if_pos (by rfl), read]
  rfl

theorem readValue_boolean (value : Bool) :
    readValue (room + 1) ((toString value).toList ++ rest) = some (.boolean value, rest) := by
  cases value with
  | true =>
      have head : ("true".toList ++ rest).head? = some 't' := rfl
      have read : after? "true".toList ("true".toList ++ rest) = some rest :=
        after?_append "true".toList rest
      change readValue (room + 1) ("true".toList ++ rest) = _
      rw [readValue, head, if_neg (by decide), if_neg (by decide), if_pos rfl, read]
      rfl
  | false =>
      have head : ("false".toList ++ rest).head? = some 'f' := rfl
      have read : after? "false".toList ("false".toList ++ rest) = some rest :=
        after?_append "false".toList rest
      change readValue (room + 1) ("false".toList ++ rest) = _
      rw [readValue, head, if_neg (by decide), if_neg (by decide), if_neg (by decide), if_pos rfl,
        read]
      rfl

theorem readValue_number (value : Nat) (ends : Ends rest) :
    readValue (room + 1) ((toString value).toList ++ rest) = some (.number value, rest) := by
  have read := readNumber_written value ends
  obtain ⟨first, others, digits, digit⟩ := exists_digit value
  have other (mark : Char) (letter : mark.isDigit = false) :
      ((toString value).toList ++ rest).head? ≠ some mark := by
    rw [digits]
    intro same
    rw [Option.some.inj same, letter] at digit
    cases digit
  rw [readValue, if_neg (other _ (by decide)), if_neg (other _ (by decide)),
    if_neg (other _ (by decide)), if_neg (other _ (by decide)), read]
  rfl

theorem readValue_empty {gap : List Char} (blank : Blank gap) :
    readValue (room + 1) ('\x7b' :: (gap ++ ['\x7d']) ++ rest) = some (.object [], rest) := by
  have closed : skip (gap ++ ['\x7d'] ++ rest) = '\x7d' :: rest := by
    rw [List.append_assoc]
    exact skip_gap blank ⟨_, _, rfl, by decide⟩
  rw [List.cons_append, readValue, if_neg (by simp), if_pos (by simp), List.tail_cons, closed]
  rfl

theorem readValue_object {fields : List (String × Value)} {gap letters : List Char}
    (blank : Blank gap) (members : Fields fields letters)
    (read : readFields room (letters ++ '\x7d' :: rest) = some (fields, rest)) :
    readValue (room + 1) ('\x7b' :: (gap ++ (letters ++ ['\x7d'])) ++ rest) =
      some (.object fields, rest) := by
  have inside : skip (gap ++ (letters ++ ['\x7d']) ++ rest) = letters ++ '\x7d' :: rest := by
    rw [List.append_assoc, List.append_assoc]
    exact skip_gap blank (members.solid.append _)
  have unclosed : after? ['\x7d'] (letters ++ '\x7d' :: rest) = none := by
    obtain ⟨others, rfl⟩ := members.opens
    exact after?_of_head_ne (by decide) _
  rw [List.cons_append, readValue, if_neg (by simp), if_pos (by simp), List.tail_cons, inside,
    unclosed, read]
  rfl

/-- There is room for every value whose text has no more letters. -/
def RoomForValues (room : Nat) : Prop :=
  ∀ {value : Value} {letters rest : List Char}, Written value letters → letters.length ≤ room →
    Ends rest → readValue room (letters ++ rest) = some (value, rest)

def RoomForFields (room : Nat) : Prop :=
  ∀ {fields : List (String × Value)} {letters rest : List Char}, Fields fields letters →
    letters.length ≤ room → readFields room (letters ++ '\x7d' :: rest) = some (fields, rest)

/-- Behind a field it is the next mark that decides. -/
theorem readFields_field (roomy : RoomForValues room) {field : String × Value}
    {letters : List Char} (member : Field field letters) (fits : letters.length ≤ room + 1)
    (ends : Ends rest) :
    readFields (room + 1) (letters ++ rest) =
      match after? [','] (skip rest) with
      | some rest => (readFields room (skip rest)).map fun others => (field :: others.1, others.2)
      | none => (after? ['\x7d'] (skip rest)).map fun rest => ([field], rest) := by
  cases member with
  | @named name value quoted before behind letters spelled above below written =>
      have named : readString (quoted ++ (before ++ ':' :: (behind ++ (letters ++ rest)))) =
          some (name, before ++ ':' :: (behind ++ (letters ++ rest))) :=
        readString_of_inQuotes spelled _
      have toColon : skip (before ++ ':' :: (behind ++ (letters ++ rest))) =
          ':' :: (behind ++ (letters ++ rest)) := skip_gap above ⟨_, _, rfl, by decide⟩
      have colon : after? [':'] (':' :: (behind ++ (letters ++ rest))) =
          some (behind ++ (letters ++ rest)) := after?_append [':'] _
      have toValue : skip (behind ++ (letters ++ rest)) = letters ++ rest :=
        skip_gap below (written.solid.append rest)
      have short : letters.length ≤ room := by
        simp only [List.length_append, List.length_cons] at fits
        omega
      have joined : quoted ++ (before ++ ':' :: (behind ++ letters)) ++ rest =
          quoted ++ (before ++ ':' :: (behind ++ (letters ++ rest))) := by simp
      rw [joined, readFields, named]
      simp only [Option.bind_eq_bind, Option.bind_some, toColon, colon, toValue,
        roomy written short ends]
      cases after? [','] (skip rest) with
      | none => exact Option.map_eq_bind.symm
      | some rest => exact Option.map_eq_bind.symm

theorem readFields_fields (roomy : RoomForValues room) (roomyFields : RoomForFields room) :
    RoomForFields (room + 1) := by
  intro fields letters rest members fits
  cases members with
  | @last field letters gap only blank =>
      have ends : Ends (gap ++ '\x7d' :: rest) := ends_gap blank (.inr rfl) rest
      have toBrace : skip (gap ++ '\x7d' :: rest) = '\x7d' :: rest :=
        skip_gap blank ⟨_, _, rfl, by decide⟩
      have closed : after? [','] ('\x7d' :: rest) = none := after?_of_head_ne (by decide) rest
      have behind : after? ['\x7d'] ('\x7d' :: rest) = some rest := after?_append ['\x7d'] rest
      have short : letters.length ≤ room + 1 := by
        rw [List.length_append] at fits
        omega
      rw [List.append_assoc, readFields_field roomy only short ends, toBrace, closed, behind]
      rfl
  | @more field fields letters before behind others first above below members =>
      have ends : Ends (before ++ ',' :: (behind ++ (others ++ '\x7d' :: rest))) :=
        ends_gap above (.inl rfl) _
      have toComma : skip (before ++ ',' :: (behind ++ (others ++ '\x7d' :: rest))) =
          ',' :: (behind ++ (others ++ '\x7d' :: rest)) := skip_gap above ⟨_, _, rfl, by decide⟩
      have comma : after? [','] (',' :: (behind ++ (others ++ '\x7d' :: rest))) =
          some (behind ++ (others ++ '\x7d' :: rest)) := after?_append [','] _
      have toFields : skip (behind ++ (others ++ '\x7d' :: rest)) = others ++ '\x7d' :: rest :=
        skip_gap below (members.solid.append _)
      have joined : letters ++ (before ++ ',' :: (behind ++ others)) ++ '\x7d' :: rest =
          letters ++ (before ++ ',' :: (behind ++ (others ++ '\x7d' :: rest))) := by simp
      simp only [List.length_append, List.length_cons] at fits
      have short : letters.length ≤ room + 1 := by omega
      have fewer : others.length ≤ room := by omega
      rw [joined, readFields_field roomy first short ends, toComma, comma]
      dsimp only
      rw [toFields, roomyFields members fewer]
      rfl

theorem readValue_value (roomyFields : RoomForFields room) : RoomForValues (room + 1) := by
  intro value letters rest written fits ends
  cases written with
  | string quoted => exact readValue_string quoted
  | number value => exact readValue_number value ends
  | boolean value => exact readValue_boolean value
  | empty blank => exact readValue_empty blank
  | object blank members =>
      apply readValue_object blank members
      apply roomyFields members
      simp only [List.length_append, List.length_cons] at fits
      omega

/-- A value and the fields inside it need no more room than their letters. -/
theorem roomFor (room : Nat) : RoomForValues room ∧ RoomForFields room := by
  induction room with
  | zero =>
      constructor
      · intro value letters rest written fits
        obtain ⟨first, others, rfl, -⟩ := written.solid
        cases fits
      · intro fields letters rest members fits
        obtain ⟨others, rfl⟩ := members.opens
        cases fits
  | succ room inductionHypothesis =>
      obtain ⟨roomy, roomyFields⟩ := inductionHypothesis
      exact ⟨readValue_value roomyFields, readFields_fields roomy roomyFields⟩

/-- Every text of a value is read as that value. -/
theorem read?_of_textOf {value : Value} {text : String} (spelled : TextOf value text) :
    read? text = some value := by
  cases spelled with
  | @whole before letters behind content above below written =>
      have start : skip text.toList = letters ++ behind := by
        rw [content]
        exact skip_gap above (written.solid.append behind)
      have ends : Ends behind := by
        intro letter first
        exact .inr (.inr (below letter (List.mem_of_head? first)))
      have fits : letters.length ≤ (letters ++ behind).length := by
        rw [List.length_append]
        exact Nat.le_add_right _ _
      have nothing : skip behind = [] := List.dropWhile_eq_nil_iff.2 below
      rw [read?, start, (roomFor _).1 written fits ends]
      simp only [Option.bind_eq_bind, Option.bind_some, nothing]
      rfl

-- The letters have other spellings than those that a compact text has.
example : read? " \x7b\"error\" :\n\"\\u00e9\\uD83D\\uDE00\\/\", \"code\": 12\x7d\t" =
    some (.object [("error", .string "é😀/"), ("code", .number 12)]) := by
  cbv

end Values

end Screencast.Text.Json
