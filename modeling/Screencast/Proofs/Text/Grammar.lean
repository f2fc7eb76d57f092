/-
This file gives the grammar of JSON texts, so that it can be said what a writer must keep to. White
space, the other escapes and the other spellings of a letter are part of the grammar, though
nothing here writes them.
-/

import Screencast.Text.Json
import Screencast.Proofs.Text.Numerals

namespace Screencast.Text.Json

section Strings

/-- The digits above nine are small or capital letters. -/
def Hexadecimal (letter : Char) (value : Nat) : Prop :=
  "0123456789abcdef".toList[value]? = some letter ∨ "0123456789ABCDEF".toList[value]? = some letter

/-- Four hexadecimal digits spell a unit of sixteen bits. -/
inductive CodeUnit : Nat → List Char → Prop
  | digits {first second third fourth : Char} {a b c d : Nat} (one : Hexadecimal first a)
      (two : Hexadecimal second b) (three : Hexadecimal third c) (four : Hexadecimal fourth d) :
      CodeUnit (((a * 16 + b) * 16 + c) * 16 + d) [first, second, third, fourth]

/-- Some letters stand behind a backslash for another one. -/
def shortForms : List (Char × Char) :=
  [('\"', '\"'), ('\\', '\\'), ('/', '/'), ('b', '\x08'), ('f', '\x0c'), ('n', '\n'), ('r', '\r'),
    ('t', '\t')]

/-- These are the spellings of one letter. -/
inductive Spelling : Char → List Char → Prop
  | plain {letter : Char} (unquoted : letter ≠ '\"') (slashless : letter ≠ '\\')
      (visible : 0x20 ≤ letter.toNat) : Spelling letter [letter]
  | short {mark letter : Char} (form : (mark, letter) ∈ shortForms) : Spelling letter ['\\', mark]
  | unit {letter : Char} {digits : List Char} (single : CodeUnit letter.toNat digits) :
      Spelling letter ('\\' :: 'u' :: digits)
  /-- A letter outside the first sixteen bits is spelled by two units. -/
  | pair {letter : Char} {high low : List Char} (large : 0x10000 ≤ letter.toNat)
      (first : CodeUnit (0xD800 + (letter.toNat - 0x10000) / 0x400) high)
      (second : CodeUnit (0xDC00 + (letter.toNat - 0x10000) % 0x400) low) :
      Spelling letter ('\\' :: 'u' :: (high ++ '\\' :: 'u' :: low))

inductive Spellings : List Char → List Char → Prop
  | nil : Spellings [] []
  | cons {letter : Char} {content spelled letters : List Char} (first : Spelling letter spelled)
      (others : Spellings content letters) : Spellings (letter :: content) (spelled ++ letters)

/-- A string stands between quotes. -/
inductive InQuotes : String → List Char → Prop
  | quoted {text : String} {letters : List Char} (spelled : Spellings text.toList letters) :
      InQuotes text ('\"' :: (letters ++ ['\"']))

end Strings

/-- White space may stand around every token. -/
def isSpace (letter : Char) : Bool :=
  letter = ' ' || letter = '\t' || letter = '\n' || letter = '\r'

def Blank (gap : List Char) : Prop := ∀ letter ∈ gap, isSpace letter = true

mutual

/-- These are the texts of a value without the white space around it. A whole number has no
fraction and no exponent. -/
inductive Written : Value → List Char → Prop
  | string {text : String} {letters : List Char} (quoted : InQuotes text letters) :
      Written (.string text) letters
  | number (value : Nat) : Written (.number value) (toString value).toList
  | boolean (value : Bool) : Written (.boolean value) (toString value).toList
  | empty {gap : List Char} (blank : Blank gap) :
      Written (.object []) ('\x7b' :: (gap ++ ['\x7d']))
  | object {fields : List (String × Value)} {gap letters : List Char} (blank : Blank gap)
      (members : Fields fields letters) :
      Written (.object fields) ('\x7b' :: (gap ++ (letters ++ ['\x7d'])))

/-- A colon separates the name of a field from its value. -/
inductive Field : String × Value → List Char → Prop
  | named {name : String} {value : Value} {quoted before behind letters : List Char}
      (spelled : InQuotes name quoted) (above : Blank before) (below : Blank behind)
      (written : Written value letters) :
      Field (name, value) (quoted ++ (before ++ ':' :: (behind ++ letters)))

/-- A comma separates two fields, which keep their order. -/
inductive Fields : List (String × Value) → List Char → Prop
  | last {field : String × Value} {letters gap : List Char} (only : Field field letters)
      (blank : Blank gap) : Fields [field] (letters ++ gap)
  | more {field : String × Value} {fields : List (String × Value)}
      {letters before behind others : List Char} (first : Field field letters)
      (above : Blank before) (below : Blank behind) (rest : Fields fields others) :
      Fields (field :: fields) (letters ++ (before ++ ',' :: (behind ++ others)))

end

/-- A text is one value with white space around it. -/
inductive TextOf : Value → String → Prop
  | whole {value : Value} {text : String} {before letters behind : List Char}
      (content : text.toList = before ++ (letters ++ behind)) (above : Blank before)
      (below : Blank behind) (written : Written value letters) : TextOf value text

/-- An object that is held has its fields in the order of their names, and no name twice. -/
inductive Held : Value → Prop
  | string (text : String) : Held (.string text)
  | number (value : Nat) : Held (.number value)
  | boolean (value : Bool) : Held (.boolean value)
  | object {fields : List (String × Value)}
      (ascending : fields.Pairwise fun first second => first.1 < second.1)
      (members : ∀ field ∈ fields, Held field.2) : Held (.object fields)

theorem held_single (name text : String) : Held (.object [(name, .string text)]) := by
  refine .object (List.pairwise_singleton _ _) fun field member => ?_
  obtain rfl := List.mem_singleton.1 member
  exact .string text

/-- A writer keeps to the grammar: it gives one of its texts to every value that it serializes, and
to every held value that it displays. -/
structure Writer.Conforms (writer : Writer) : Prop where
  serialize (value : Value) : ∃ text, writer.serialize value = .ok text ∧ TextOf value text
  display {value : Value} (held : Held value) : TextOf value (writer.display value)

section Compact

theorem hexadecimal_hexDigit {value : Nat} (small : value < 16) :
    Hexadecimal (hexDigit value) value := by
  have all : ∀ value : Fin 16,
      "0123456789abcdef".toList[value.val]? = some (hexDigit value.val) := by decide
  exact .inl (all ⟨value, small⟩)

theorem eq_of_toNat {letter : Char} {value : Nat} (same : letter.toNat = value) :
    letter = Char.ofNat value := by
  rw [← same, Char.ofNat_toNat]

/-- The digits of a control are those of its number. -/
theorem spelling_control {letter : Char} (low : letter.toNat < 0x20) :
    Spelling letter (control letter) := by
  have zero : Hexadecimal '0' 0 := .inl (by decide)
  have whole : ((0 * 16 + 0) * 16 + letter.toNat / 16) * 16 + letter.toNat % 16 = letter.toNat := by
    omega
  have high : Hexadecimal (hexDigit (letter.toNat / 16)) (letter.toNat / 16) :=
    hexadecimal_hexDigit (by omega)
  have small : Hexadecimal (hexDigit (letter.toNat % 16)) (letter.toNat % 16) :=
    hexadecimal_hexDigit (by omega)
  have unit := CodeUnit.digits zero zero high small
  rw [whole] at unit
  exact .unit unit

theorem spelling_escape (letter : Char) : Spelling letter (escape letter) := by
  unfold escape
  split
  case isTrue special => rcases special with rfl | rfl <;> exact .short (by decide)
  case isFalse plain =>
    split
    case isTrue same => rw [eq_of_toNat same]; exact .short (by decide)
    split
    case isTrue same => rw [eq_of_toNat same]; exact .short (by decide)
    split
    case isTrue same => rw [same]; exact .short (by decide)
    split
    case isTrue same => rw [same]; exact .short (by decide)
    split
    case isTrue same => rw [same]; exact .short (by decide)
    split
    case isTrue low => exact spelling_control low
    case isFalse visible =>
      obtain ⟨unquoted, slashless⟩ := not_or.1 plain
      exact .plain unquoted slashless (Nat.not_lt.1 visible)

theorem spellings_escape (content : List Char) : Spellings content (content.flatMap escape) := by
  induction content with
  | nil => exact .nil
  | cons letter content inductionHypothesis =>
      rw [List.flatMap_cons]
      exact .cons (spelling_escape letter) inductionHypothesis

theorem inQuotes_writeString (text : String) : InQuotes text (writeString text) :=
  .quoted (spellings_escape text.toList)

theorem writeFields_cons (name : String) (value : Value) (others : List (String × Value)) :
    writeFields ((name, value) :: others) = writeString name ++ ':' :: (write value ++
      if others = [] then [] else ',' :: writeFields others) := by
  cases others with
  | nil => simp [writeFields]
  | cons second others => simp [writeFields]

theorem blank_nil : Blank [] := by
  intro letter member
  cases member

mutual

/-- What is written compactly keeps to the grammar. -/
theorem written_write : (value : Value) → Written value (write value)
  | .string text => .string (inQuotes_writeString text)
  | .number value => .number value
  | .boolean value => .boolean value
  | .object fields => by
      by_cases empty : fields = []
      · subst empty
        exact .empty blank_nil
      · exact .object blank_nil (fields_writeFields fields empty)

theorem fields_writeFields : (fields : List (String × Value)) → fields ≠ [] →
    Fields fields (writeFields fields)
  | [], nonempty => absurd rfl nonempty
  | (name, value) :: others, _ => by
      have field : Field (name, value) (writeString name ++ ':' :: write value) :=
        .named (inQuotes_writeString name) blank_nil blank_nil (written_write value)
      rw [writeFields_cons]
      by_cases single : others = []
      · subst single
        have fields := Fields.last field blank_nil
        simpa using fields
      · have fields := Fields.more field blank_nil blank_nil (fields_writeFields others single)
        rw [if_neg single]
        simpa using fields

end

theorem compact_conforms : Writer.compact.Conforms := by
  have compact (value : Value) : TextOf value (text value) := by
    refine .whole ?_ blank_nil blank_nil (written_write value)
    rw [text, String.toList_ofList, List.append_nil, List.nil_append]
  constructor
  · intro value
    exact ⟨text value, rfl, compact value⟩
  · intro value _
    exact compact value

end Compact

end Screencast.Text.Json
