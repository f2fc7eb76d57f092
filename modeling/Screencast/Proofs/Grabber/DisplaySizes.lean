/-
This file says which lines report a screen size and which of them decides. All other lines of the
output could as well be missing.
-/

import Screencast.Grabber.DisplaySize
import Screencast.Proofs.Text.Lines
import Screencast.Proofs.Text.Numerals

namespace Screencast.Text

/-- No letter of a number is blank or a separator. -/
theorem Numeral.plain {letters : List Char} {value : UInt32} (numeral : Numeral letters value)
    {letter : Char} (member : letter ∈ letters) :
    isBlank letter = false ∧ letter ≠ 'x' := by
  obtain ⟨digits, signed, -, each, -⟩ := numeral
  have either : letter = '+' ∨ letter.isDigit = true := by
    rcases signed with rfl | rfl
    · exact .inr (each letter member)
    · exact (List.mem_cons.1 member).imp id (each letter)
  rcases either with rfl | digit
  · decide
  · have range := Char.isDigit_iff_toNat.1 digit
    change 48 ≤ letter.toNat ∧ letter.toNat ≤ 57 at range
    constructor
    · simp only [isBlank, Bool.or_eq_false_iff, Bool.and_eq_false_iff, decide_eq_false_iff_not,
        beq_eq_false_iff_ne]
      omega
    · rintro rfl
      exact absurd digit (by decide)

theorem Numeral.ne_nil {letters : List Char} {value : UInt32} (numeral : Numeral letters value) :
    letters ≠ [] := by
  obtain ⟨digits, rfl | rfl, nonempty, -⟩ := numeral
  · exact nonempty
  · exact List.cons_ne_nil _ _

theorem Numeral.tight {letters : List Char} {value : UInt32} (numeral : Numeral letters value) :
    Tight letters where
  head _ found := (numeral.plain (List.mem_of_head? found)).1
  last _ found := (numeral.plain (List.mem_of_getLast? found)).1

end Screencast.Text

namespace Screencast.Grabber.DisplaySize

open Text

/-- Two numbers stand on the sides of a letter x, with blanks around each. -/
def Sides (letters : List Char) (size : UInt32 × UInt32) : Prop :=
  ∃ wide high, letters = wide ++ 'x' :: high ∧
    (∃ width, Padded width wide ∧ Numeral width size.1) ∧
    ∃ height, Padded height high ∧ Numeral height size.2

/-- The blanks at the ends of two sides are trimmed off twice, which is as good as once. -/
theorem size?_trimBlanks_eq_some_iff {letters : List Char} {size : UInt32 × UInt32} :
    size? (trimBlanks letters) = some size ↔ Sides letters size := by
  constructor
  · intro read
    obtain ⟨⟨width, height⟩, cut, sides⟩ := Option.bind_eq_some_iff.1 read
    obtain ⟨wide, widthRead, rest⟩ := Option.bind_eq_some_iff.1 sides
    obtain ⟨high, heightRead, pair⟩ := Option.bind_eq_some_iff.1 rest
    obtain rfl := Option.some.inj pair
    obtain ⟨split, -⟩ := cutAt?_eq_some_iff.1 cut
    obtain ⟨before, after, whole, blank, blanks⟩ := padded_trimBlanks letters
    refine ⟨before ++ width, height ++ after, ?_,
      ⟨_, (padded_trimBlanks width).prepend blank, word?_eq_some_iff.1 widthRead⟩,
      ⟨_, (padded_trimBlanks height).append blanks, word?_eq_some_iff.1 heightRead⟩⟩
    rw [whole, split]
    simp only [List.append_assoc, List.cons_append]
  · rintro ⟨wide, high, rfl, ⟨width, ⟨before, inner, rfl, blank, blanks⟩, first⟩,
      ⟨height, ⟨outer, after, rfl, spaces, ends⟩, second⟩⟩
    have core : trimBlanks (before ++ width ++ inner ++ 'x' :: (outer ++ height ++ after)) =
        width ++ inner ++ 'x' :: (outer ++ height) := by
      apply trimBlanks_of_padded
      · constructor
        · intro letter found
          apply first.tight.head letter
          rw [List.append_assoc, List.head?_append_of_ne_nil _ first.ne_nil] at found
          exact found
        · intro letter found
          apply second.tight.last letter
          rw [← List.cons_append, ← List.append_assoc,
            List.getLast?_append_of_ne_nil _ second.ne_nil] at found
          exact found
      · exact ⟨before, after, by simp, blank, ends⟩
    have absent : 'x' ∉ width ++ inner := by
      intro member
      rcases List.mem_append.1 member with digit | space
      · exact (first.plain digit).2 rfl
      · exact absurd (blanks 'x' space) (by decide)
    have left : trimBlanks (width ++ inner) = width :=
      trimBlanks_of_padded first.tight ⟨[], inner, by simp, by simp, blanks⟩
    have right : trimBlanks (outer ++ height) = height :=
      trimBlanks_of_padded second.tight ⟨outer, [], by simp, spaces, by simp⟩
    rw [core, size?, cutAt?_append absent]
    simp [left, right, word?_eq_some_iff.2 first, word?_eq_some_iff.2 second]

/-- A line reports a size when it is a label, a colon and the two sides. Blanks may stand around
the label too. -/
def Reports (line : List Char) (label : Label) (size : UInt32 × UInt32) : Prop :=
  ∃ labelled sized, line = labelled ++ ':' :: sized ∧ Padded label.text.toList labelled ∧
    Sides sized size

theorem Label.tight (label : Label) : Tight label.text.toList := by
  cases label <;> constructor <;> simp [Label.text, isBlank]

theorem Label.colon_notMem {label : Label} {labelled : List Char}
    (padded : Padded label.text.toList labelled) : ':' ∉ labelled := by
  obtain ⟨before, after, rfl, blank, blanks⟩ := padded
  have space : isBlank ':' = false := by decide
  have letters : ':' ∉ label.text.toList := by cases label <;> decide
  intro member
  rcases List.mem_append.1 member with front | behind
  · rcases List.mem_append.1 front with front | inside
    · exact Bool.false_ne_true (space.symm.trans (blank ':' front))
    · exact letters inside
  · exact Bool.false_ne_true (space.symm.trans (blanks ':' behind))

theorem line?_eq_some_iff {line : List Char} {label : Label} {size : UInt32 × UInt32} :
    line? line = some (label, size) ↔ Reports line label size := by
  constructor
  · intro read
    obtain ⟨⟨labelled, sized⟩, cut, rest⟩ := Option.bind_eq_some_iff.1 read
    obtain ⟨found, sides, named⟩ := Option.bind_eq_some_iff.1 rest
    obtain ⟨known, matched, pair⟩ := Option.bind_eq_some_iff.1 named
    obtain ⟨rfl, rfl⟩ := Prod.mk.inj (Option.some.inj pair)
    have named : known.text.toList = trimBlanks labelled := by
      simpa using List.find?_some matched
    refine ⟨labelled, sized, (cutAt?_eq_some_iff.1 cut).1, ?_,
      size?_trimBlanks_eq_some_iff.1 sides⟩
    rw [named]
    exact padded_trimBlanks labelled
  · rintro ⟨labelled, sized, rfl, padded, sides⟩
    have named : trimBlanks labelled = label.text.toList := trimBlanks_of_padded label.tight padded
    have found : [Label.physical, .override].find? (fun known =>
        decide (known.text.toList = label.text.toList)) = some label := by
      cases label <;> decide
    rw [line?, cutAt?_append (Label.colon_notMem padded)]
    simp only [Option.bind_eq_bind, Option.bind_some, size?_trimBlanks_eq_some_iff.2 sides, named,
      found]
    rfl

/-- The last line that reports a size under a label reports this one. -/
def Latest (lines : List (List Char)) (label : Label) (size : UInt32 × UInt32) : Prop :=
  ∃ before line after, lines = before ++ line :: after ∧ Reports line label size ∧
    ∀ later ∈ after, ∀ other, ¬ Reports later label other

/-- Some lines become others by inserting and deleting lines that report no size. -/
inductive Edited : List (List Char) → List (List Char) → Prop
  | done : Edited [] []
  | keep (line : List Char) {first second : List (List Char)} (rest : Edited first second) :
      Edited (line :: first) (line :: second)
  | insert {line : List Char} (silent : ∀ label size, ¬ Reports line label size)
      {first second : List (List Char)} (rest : Edited first second) :
      Edited first (line :: second)
  | delete {line : List Char} (silent : ∀ label size, ¬ Reports line label size)
      {first second : List (List Char)} (rest : Edited first second) :
      Edited (line :: first) second

/-- Some line is the last one with a label, or there is none. -/
theorem exists_latest_or_unreported (lines : List (List Char)) (label : Label) :
    (∃ size, Latest lines label size) ∨ ∀ line ∈ lines, ∀ size, ¬ Reports line label size := by
  induction lines with
  | nil => exact .inr (by simp)
  | cons line rest inductionHypothesis =>
      rcases inductionHypothesis with ⟨size, before, last, after, rfl, latest⟩ | unreported
      · exact .inl ⟨size, line :: before, last, after, rfl, latest⟩
      · by_cases first : ∃ size, Reports line label size
        · obtain ⟨size, reports⟩ := first
          exact .inl ⟨size, [], line, rest, rfl, reports, unreported⟩
        · apply Or.inr
          intro other member
          rcases List.mem_cons.1 member with rfl | later
          · exact not_exists.1 first
          · exact unreported other later

/-- Lines that report nothing under a label leave no entry for it. -/
theorem last?_of_unreported {lines : List (List Char)} {label : Label}
    (unreported : ∀ line ∈ lines, ∀ size, ¬ Reports line label size) :
    last? label (lines.filterMap line?) = none := by
  have missing : ∀ entry ∈ (lines.filterMap line?).reverse, ¬ decide (entry.1 = label) = true := by
    intro entry member same
    obtain ⟨line, known, read⟩ := List.mem_filterMap.1 (List.mem_reverse.1 member)
    obtain rfl := of_decide_eq_true same
    exact unreported line known entry.2 (line?_eq_some_iff.1 read)
  rw [last?, List.find?_eq_none.2 missing]
  rfl

theorem last?_of_latest {lines : List (List Char)} {label : Label} {size : UInt32 × UInt32}
    (latest : Latest lines label size) : last? label (lines.filterMap line?) = some size := by
  obtain ⟨before, line, after, rfl, reports, unreported⟩ := latest
  have silent : (after.filterMap line?).reverse.find? (fun entry => entry.1 = label) = none :=
    Option.map_eq_none_iff.1 (last?_of_unreported unreported)
  rw [last?, List.filterMap_append, List.filterMap_cons_some (line?_eq_some_iff.2 reports),
    List.reverse_append, List.reverse_cons, List.append_assoc, List.find?_append, silent]
  simp

theorem last?_eq_some_iff {lines : List (List Char)} {label : Label} {size : UInt32 × UInt32} :
    last? label (lines.filterMap line?) = some size ↔ Latest lines label size := by
  constructor
  · intro last
    rcases exists_latest_or_unreported lines label with ⟨other, latest⟩ | unreported
    · rw [last?_of_latest latest] at last
      obtain rfl := Option.some.inj last
      exact latest
    · exact absurd (last.symm.trans (last?_of_unreported unreported)) (by simp)
  · exact last?_of_latest

theorem last?_eq_none_iff {lines : List (List Char)} {label : Label} :
    last? label (lines.filterMap line?) = none ↔
      ∀ line ∈ lines, ∀ size, ¬ Reports line label size := by
  constructor
  · intro missing
    rcases exists_latest_or_unreported lines label with ⟨size, latest⟩ | unreported
    · exact absurd (missing.symm.trans (last?_of_latest latest)) (by simp)
    · exact unreported
  · exact last?_of_unreported

theorem line?_of_silent {line : List Char} (silent : ∀ label size, ¬ Reports line label size) :
    line? line = none := by
  cases read : line? line with
  | none => rfl
  | some entry => exact absurd (line?_eq_some_iff.1 read) (silent entry.1 entry.2)

/-- What is inserted and deleted is not read. -/
theorem Edited.filterMap {first second : List (List Char)} (edited : Edited first second) :
    first.filterMap line? = second.filterMap line? := by
  induction edited with
  | done => rfl
  | keep line rest inductionHypothesis =>
      rw [List.filterMap_cons, List.filterMap_cons, inductionHypothesis]
  | insert silent rest inductionHypothesis =>
      rw [List.filterMap_cons_none (line?_of_silent silent), inductionHypothesis]
  | delete silent rest inductionHypothesis =>
      rw [List.filterMap_cons_none (line?_of_silent silent), inductionHypothesis]

/-- A carriage return at the end of a line makes no difference. -/
theorem Reports.dropReturn {line : List Char} {label : Label} {size : UInt32 × UInt32}
    (reports : Reports line label size) : Reports (dropReturn '\r' line) label size := by
  obtain ⟨labelled, _, rfl, padded, wide, high, rfl, width, height, around, numeral⟩ := reports
  have nonempty : high ≠ [] := by
    obtain ⟨before, after, rfl, -⟩ := around
    simp [numeral.ne_nil]
  have kept : Text.dropReturn '\r' (labelled ++ ':' :: (wide ++ 'x' :: high)) =
      labelled ++ ':' :: (wide ++ 'x' :: Text.dropReturn '\r' high) := by
    have joined : labelled ++ ':' :: (wide ++ 'x' :: high) =
        labelled ++ [':'] ++ wide ++ ['x'] ++ high := by simp
    rw [joined, dropReturn_append nonempty]
    simp
  rw [kept]
  exact ⟨labelled, _, rfl, padded, wide, _, rfl, width, height,
    around.dropReturn numeral.tight numeral.ne_nil, numeral⟩

/-- A size is written under a label on a line of its own. Blanks may stand around each part. The
line ends with a line feed, with a carriage return and a line feed, or with the text. -/
def Written (letters : List Char) (label : Label) (width height : UInt32) : Prop :=
  ∃ before labelled wide high ending after,
    letters = before ++ (labelled ++ ':' :: (wide ++ 'x' :: high) ++ (ending ++ after)) ∧
      (before = [] ∨ before.getLast? = some '\n') ∧
      (ending = ['\n'] ∨ ending = ['\r', '\n'] ∨ ending = [] ∧ after = []) ∧
      (∀ part ∈ [labelled, wide, high], '\n' ∉ part) ∧
      Padded label.text.toList labelled ∧
      Padded (toString width.toNat).toList wide ∧ Padded (toString height.toNat).toList high

/-- What is written can be read. -/
theorem Written.exists_line {letters : List Char} {label : Label} {width height : UInt32}
    (written : Written letters label width height) :
    ∃ line ∈ lines letters, Reports line label (width, height) := by
  obtain ⟨before, labelled, wide, high, ending, after, rfl, closed, ends, feedless, named, around,
    behind⟩ := written
  have reports (high : List Char) (behind : Padded (toString height.toNat).toList high) :
      Reports (labelled ++ ':' :: (wide ++ 'x' :: high)) label (width, height) :=
    ⟨labelled, _, rfl, named, wide, high, rfl, ⟨_, around, numeral_toString width⟩,
      ⟨_, behind, numeral_toString height⟩⟩
  have absent (high : List Char) (feedless : '\n' ∉ high) :
      '\n' ∉ labelled ++ ':' :: (wide ++ 'x' :: high) := by
    simp_all
  have ended (high : List Char) (feedless : '\n' ∉ high)
      (behind : Padded (toString height.toNat).toList high) (rest : List Char) :
      ∃ line ∈ lines (labelled ++ ':' :: (wide ++ 'x' :: high) ++ '\n' :: rest),
        Reports line label (width, height) := by
    refine ⟨_, ?_, (reports high behind).dropReturn⟩
    rw [lines, splitLines_append_feed, splitLines_line (absent high feedless)]
    exact List.mem_append_left _ (List.mem_singleton_self _)
  have last : '\n' ∉ high := feedless high (by simp)
  suffices own : ∃ line ∈ lines (labelled ++ ':' :: (wide ++ 'x' :: high) ++ (ending ++ after)),
      Reports line label (width, height) by
    obtain ⟨line, member, report⟩ := own
    exact ⟨line, mem_splitLines_append closed member, report⟩
  rcases ends with rfl | rfl | ⟨rfl, rfl⟩
  · exact ended high last behind after
  · have blank : ∀ letter ∈ ['\r'], isBlank letter = true := List.forall_mem_singleton.2 rfl
    have returned := ended (high ++ ['\r']) (by simpa using last) (behind.append blank) after
    simpa using returned
  · refine ⟨_, ?_, reports high behind⟩
    rw [List.append_nil, List.append_nil, lines, splitLines_open (absent high last) (by simp)]
    exact List.mem_singleton_self _

/-- This is the size that some lines give. -/
def given? (lines : List (List Char)) : Option (UInt32 × UInt32) :=
  (last? .override (lines.filterMap line?)).or (last? .physical (lines.filterMap line?))

theorem given?_eq_some_iff {lines : List (List Char)} {size : UInt32 × UInt32} :
    given? lines = some size ↔ Latest lines .override size ∨
      (∀ line ∈ lines, ∀ other, ¬ Reports line .override other) ∧ Latest lines .physical size := by
  rw [given?, Option.or_eq_some_iff, last?_eq_some_iff, last?_eq_none_iff, last?_eq_some_iff]

theorem given?_eq_none_iff {lines : List (List Char)} :
    given? lines = none ↔ ∀ line ∈ lines, ∀ label size, ¬ Reports line label size := by
  rw [given?, Option.or_eq_none_iff, last?_eq_none_iff, last?_eq_none_iff]
  constructor
  · rintro ⟨override, physical⟩ line member label
    cases label with
    | physical => exact physical line member
    | override => exact override line member
  · intro silent
    exact ⟨fun line member => silent line member .override,
      fun line member => silent line member .physical⟩

theorem parse_eq_ok_iff {output : String} {size : UInt32 × UInt32} :
    parse output = .ok size ↔ given? (lines output.toList) = some size := by
  cases given : given? (lines output.toList) <;> rw [given?] at given <;> simp [parse, given]

theorem parse_of_none {output : String} (none : given? (lines output.toList) = none) :
    parse output = .error (.displaySize (trim output)) := by
  rw [given?] at none
  simp [parse, none]

theorem parse_eq_error_iff {output : String} {fault : GrabberFault} :
    parse output = .error fault ↔
      given? (lines output.toList) = none ∧ fault = .displaySize (trim output) := by
  cases given : given? (lines output.toList) with
  | none => simp [parse_of_none given, eq_comm]
  | some size => simp [parse_eq_ok_iff.2 given]

theorem toOption_parse (output : String) :
    (parse output).toOption = given? (lines output.toList) := by
  cases given : given? (lines output.toList) with
  | none =>
      rw [parse_of_none given]
      rfl
  | some size =>
      rw [parse_eq_ok_iff.2 given]
      rfl

/-- The last line that reports an overriding size decides, wherever it stands. Without such a line
the last one that reports a physical size does, and without that there is no size. So lines that
report no size can be inserted and deleted, and one written line is enough for a size to be
found. -/
theorem parse_latest (output : String) :
    let lines := Text.lines output.toList
    ((∀ size, parse output = .ok size ↔ Latest lines .override size ∨
          (∀ line ∈ lines, ∀ other, ¬ Reports line .override other) ∧
            Latest lines .physical size) ∧
        ∀ fault, parse output = .error fault ↔
          (∀ line ∈ lines, ∀ label size, ¬ Reports line label size) ∧
            fault = .displaySize (Text.trim output)) ∧
      (∀ other : String, Edited lines (Text.lines other.toList) →
        (parse output).toOption = (parse other).toOption) ∧
      ∀ label width height, Written output.toList label width height →
        ∃ size, parse output = .ok size := by
  intro lines
  refine ⟨⟨?_, ?_⟩, ?_, ?_⟩
  · intro size
    rw [parse_eq_ok_iff, given?_eq_some_iff]
  · intro fault
    rw [parse_eq_error_iff, given?_eq_none_iff]
  · intro other edited
    rw [toOption_parse, toOption_parse, given?, given?, edited.filterMap]
  · intro label width height written
    obtain ⟨line, member, reports⟩ := written.exists_line
    cases given : given? lines with
    | none => exact absurd reports (given?_eq_none_iff.1 given line member label _)
    | some size => exact ⟨size, parse_eq_ok_iff.2 given⟩

/-- A physical size behind an overriding one does not decide, and the line between them can go. -/
theorem parse_latest_reversed :
    let output := "Override size: 720x1600\r\nnoise\nPhysical size: 1080x2400 \n"
    parse output = .ok (720, 1600) ∧
      (parse output).toOption =
        (parse "Override size: 720x1600\nPhysical size: 1080x2400 ").toOption ∧
      ∃ size, parse output = .ok size := by
  intro output
  have silent {line : List Char} {read : Option (Label × UInt32 × UInt32)} {label : Label}
      (found : line? line = read) (other : ∀ size, read ≠ some (label, size))
      (size : UInt32 × UInt32) : ¬ Reports line label size := by
    intro reports
    exact other size (found.symm.trans (line?_eq_some_iff.2 reports))
  have noise (label : Label) : ∀ size, ¬ Reports "noise".toList label size :=
    silent (by decide : _ = none) (by simp)
  have physical : line? "Physical size: 1080x2400 ".toList = some (.physical, 1080, 2400) := by
    decide
  have blank : ∀ letter ∈ [' '], isBlank letter = true := List.forall_mem_singleton.2 rfl
  have latest := parse_latest output
  refine ⟨(latest.1.1 _).2 (.inl ?_), latest.2.1 _ ?_, latest.2.2 .physical 1080 2400 ?_⟩
  · refine ⟨[], "Override size: 720x1600".toList,
      ["noise".toList, "Physical size: 1080x2400 ".toList], by decide, ?_, ?_⟩
    · exact line?_eq_some_iff.1 (by decide)
    · intro later member
      rcases List.mem_pair.1 member with rfl | rfl
      · exact noise .override
      · exact silent physical (by simp)
  · have first : Text.lines output.toList = ["Override size: 720x1600".toList, "noise".toList,
        "Physical size: 1080x2400 ".toList] := by decide
    have second : Text.lines "Override size: 720x1600\nPhysical size: 1080x2400 ".toList =
        ["Override size: 720x1600".toList, "Physical size: 1080x2400 ".toList] := by decide
    rw [first, second]
    exact .keep _ (.delete noise (.keep _ .done))
  · exact ⟨"Override size: 720x1600\r\nnoise\n".toList, "Physical size".toList, " 1080".toList,
      "2400 ".toList, ['\n'], [], by decide, .inr (by decide), .inl rfl, by simp,
      ⟨[], [], by decide, by simp, by simp⟩, ⟨[' '], [], by decide, blank, by simp⟩,
      ⟨[], [' '], by decide, by simp, blank⟩⟩

end Screencast.Grabber.DisplaySize
