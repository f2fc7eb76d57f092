/-
This file says what the lines of a text are, where a text is cut and what is trimmed off it.
-/

import Screencast.Text.Blank
import Screencast.Text.Line
import Mathlib.Data.List.DropRight

namespace Screencast.Text

/-- A scan stops behind what it passes over, when it does not pass over what comes next. -/
theorem dropWhile_append_of_stop {passed : Char → Bool} {before rest : List Char}
    (passes : ∀ letter ∈ before, passed letter = true)
    (stop : ∀ letter, rest.head? = some letter → passed letter = false) :
    (before ++ rest).dropWhile passed = rest := by
  rw [List.dropWhile_append_of_pos passes]
  cases rest with
  | nil => rfl
  | cons first rest => rw [List.dropWhile_cons_of_neg (by simp [stop first rfl])]

/-- What a scan passes over is all that stands before its stop. -/
theorem takeWhile_append_of_stop {passed : Char → Bool} {before rest : List Char}
    (passes : ∀ letter ∈ before, passed letter = true)
    (stop : ∀ letter, rest.head? = some letter → passed letter = false) :
    (before ++ rest).takeWhile passed = before := by
  rw [List.takeWhile_append_of_pos passes]
  cases rest with
  | nil => exact List.append_nil before
  | cons first rest =>
      rw [List.takeWhile_cons_of_neg (by simp [stop first rfl]), List.append_nil]

theorem stop_of_dropWhile (passed : Char → Bool) (letters : List Char) (letter : Char)
    (first : (letters.dropWhile passed).head? = some letter) : passed letter = false := by
  have stop := List.head?_dropWhile_not passed letters
  rw [first] at stop
  exact stop

section Cuts

variable {separator : Char} {letters before after : List Char}

theorem cutAt?_append (absent : separator ∉ before) :
    cutAt? separator (before ++ separator :: after) = some (before, after) := by
  have passes : ∀ letter ∈ before, decide (letter ≠ separator) = true := by
    intro letter member
    apply decide_eq_true
    rintro rfl
    exact absent member
  have stop : ∀ letter, (separator :: after).head? = some letter →
      decide (letter ≠ separator) = false := by simp
  rw [cutAt?, dropWhile_append_of_stop passes stop, takeWhile_append_of_stop passes stop]

/-- A text is cut at its first separator. -/
theorem cutAt?_eq_some_iff :
    cutAt? separator letters = some (before, after) ↔
      letters = before ++ separator :: after ∧ separator ∉ before := by
  constructor
  · intro cut
    cases tail : letters.dropWhile (· ≠ separator) with
    | nil => simp only [cutAt?, tail, reduceCtorEq] at cut
    | cons first rest =>
        have reached : first = separator := by
          simpa using stop_of_dropWhile (· ≠ separator) letters first (by rw [tail]; rfl)
        simp only [cutAt?, tail, Option.some.injEq, Prod.mk.injEq] at cut
        obtain ⟨rfl, rfl⟩ := cut
        constructor
        · rw [← reached, ← tail, reached, List.takeWhile_append_dropWhile]
        · intro member
          simpa using List.mem_takeWhile_imp member
  · rintro ⟨rfl, absent⟩
    exact cutAt?_append absent

end Cuts

section Blanks

/-- Some letters are a text with blanks around it. -/
def Padded (text letters : List Char) : Prop :=
  ∃ before after, letters = before ++ text ++ after ∧
    (∀ letter ∈ before, isBlank letter = true) ∧ ∀ letter ∈ after, isBlank letter = true

/-- A text has no blanks at its ends. -/
structure Tight (text : List Char) : Prop where
  head : ∀ letter, text.head? = some letter → isBlank letter = false
  last : ∀ letter, text.getLast? = some letter → isBlank letter = false

variable {text letters : List Char}

theorem padded_trimBlanks (letters : List Char) : Padded (trimBlanks letters) letters := by
  generalize rest_eq : letters.dropWhile isBlank = rest
  refine ⟨letters.takeWhile isBlank, (rest.reverse.takeWhile isBlank).reverse, ?_, ?_, ?_⟩
  · rw [trimBlanks, rest_eq, List.append_assoc, ← List.reverse_append,
      List.takeWhile_append_dropWhile, List.reverse_reverse, ← rest_eq,
      List.takeWhile_append_dropWhile]
  · intro letter member
    exact List.mem_takeWhile_imp member
  · intro letter member
    exact List.mem_takeWhile_imp (List.mem_reverse.1 member)

theorem tight_trimBlanks (letters : List Char) : Tight (trimBlanks letters) := by
  have last : ∀ letter, (trimBlanks letters).getLast? = some letter → isBlank letter = false := by
    intro letter found
    rw [trimBlanks, List.getLast?_reverse] at found
    exact stop_of_dropWhile isBlank _ letter found
  refine ⟨fun letter found => ?_, last⟩
  obtain ⟨rest, front⟩ : trimBlanks letters <+: letters.dropWhile isBlank := by
    rw [trimBlanks, ← List.reverse_suffix, List.reverse_reverse]
    exact List.dropWhile_suffix isBlank
  refine stop_of_dropWhile isBlank letters letter ?_
  rw [← front, List.head?_append, found]
  rfl

theorem Padded.prepend {before : List Char} (blank : ∀ letter ∈ before, isBlank letter = true)
    (padded : Padded text letters) : Padded text (before ++ letters) := by
  obtain ⟨front, after, rfl, fronts, afters⟩ := padded
  refine ⟨before ++ front, after, by simp only [List.append_assoc], ?_, afters⟩
  intro letter member
  exact (List.mem_append.1 member).elim (blank letter) (fronts letter)

theorem Padded.append {after : List Char} (blank : ∀ letter ∈ after, isBlank letter = true)
    (padded : Padded text letters) : Padded text (letters ++ after) := by
  obtain ⟨front, rest, rfl, fronts, afters⟩ := padded
  refine ⟨front, rest ++ after, by simp only [List.append_assoc], fronts, ?_⟩
  intro letter member
  exact (List.mem_append.1 member).elim (afters letter) (blank letter)

/-- Trimming leaves the text that stands between blanks. -/
theorem trimBlanks_of_padded (tight : Tight text) (padded : Padded text letters) :
    trimBlanks letters = text := by
  obtain ⟨before, after, rfl, blank, blanks⟩ := padded
  cases text with
  | nil =>
      have all : ∀ letter ∈ before ++ [] ++ after, isBlank letter = true := by
        intro letter member
        rw [List.append_nil] at member
        exact (List.mem_append.1 member).elim (blank letter) (blanks letter)
      rw [trimBlanks, List.dropWhile_eq_nil_iff.2 all]
      rfl
  | cons first rest =>
      have head : ∀ letter, (first :: rest ++ after).head? = some letter →
          isBlank letter = false := tight.head
      have last : ∀ letter, (first :: rest).reverse.head? = some letter →
          isBlank letter = false := by
        intro letter found
        exact tight.last letter (List.head?_reverse ▸ found)
      rw [trimBlanks, List.append_assoc, dropWhile_append_of_stop blank head, List.reverse_append,
        dropWhile_append_of_stop (fun letter member => blanks letter (List.mem_reverse.1 member))
          last, List.reverse_reverse]

end Blanks

section Lines

variable {α : Type} [DecidableEq α] {feed carriage : α}

theorem dropReturn_append {before after : List α} (nonempty : after ≠ []) :
    dropReturn carriage (before ++ after) = before ++ dropReturn carriage after := by
  rw [dropReturn, dropReturn, List.getLast?_append_of_ne_nil _ nonempty]
  split
  · exact List.dropLast_append_of_ne_nil nonempty
  · rfl

/-- A carriage return is one of the blanks behind a text. -/
theorem Padded.dropReturn {text letters : List Char} (tight : Tight text) (nonempty : text ≠ [])
    (padded : Padded text letters) : Padded text (dropReturn '\r' letters) := by
  obtain ⟨before, after, rfl, blank, blanks⟩ := padded
  rcases after.eq_nil_or_concat' with rfl | ⟨rest, last, rfl⟩
  · have solid : text.getLast? ≠ some '\r' := by
      intro ends
      exact absurd (tight.last '\r' ends) (by decide)
    rw [List.append_nil, dropReturn_append nonempty, Text.dropReturn, if_neg solid]
    exact ⟨before, [], (List.append_nil _).symm, blank, by simp⟩
  · have rests : ∀ letter ∈ rest, isBlank letter = true := by
      intro letter member
      exact blanks letter (List.mem_append_left _ member)
    rw [← List.append_assoc, Text.dropReturn]
    split
    · rw [List.dropLast_concat]
      exact ⟨before, rest, rfl, blank, rests⟩
    · exact ⟨before, rest ++ [last], by simp, blank, by simpa using blanks⟩

/-- What stands in front of the next line feed joins the open line. -/
theorem splitLines_go_append {line rest : List α} (absent : feed ∉ line) (front : List α) :
    splitLines.go feed carriage front (line ++ rest) =
      splitLines.go feed carriage (line.reverse ++ front) rest := by
  induction line generalizing front with
  | nil => rfl
  | cons item line inductionHypothesis =>
      have others : feed ≠ item ∧ feed ∉ line := by simpa using absent
      rw [List.cons_append, splitLines.go, if_neg others.1.symm, inductionHypothesis others.2,
        List.reverse_cons, List.append_assoc]
      rfl

/-- A line feed ends the open line, and the next line begins behind it. -/
theorem splitLines_go_feed (content rest front : List α) :
    splitLines.go feed carriage front (content ++ feed :: rest) =
      splitLines.go feed carriage front (content ++ [feed]) ++ splitLines feed carriage rest := by
  induction content generalizing front with
  | nil => simp [splitLines.go, splitLines]
  | cons item content inductionHypothesis =>
      by_cases ends : item = feed
      · simp [splitLines.go, ends, inductionHypothesis]
      · simp [splitLines.go, ends, inductionHypothesis]

/-- What stands behind a line feed is split by itself. -/
theorem splitLines_append_feed (content rest : List α) :
    splitLines feed carriage (content ++ feed :: rest) =
      splitLines feed carriage (content ++ [feed]) ++ splitLines feed carriage rest :=
  splitLines_go_feed content rest []

/-- A line that a line feed ends is one line. -/
theorem splitLines_line {line : List α} (absent : feed ∉ line) :
    splitLines feed carriage (line ++ [feed]) = [dropReturn carriage line] := by
  rw [splitLines, splitLines_go_append absent, splitLines.go, if_pos rfl, splitLines.go]
  simp

/-- The last line needs no line feed. -/
theorem splitLines_open {line : List α} (absent : feed ∉ line) (nonempty : line ≠ []) :
    splitLines feed carriage line = [line] := by
  have joined : splitLines.go feed carriage [] (line ++ []) =
      splitLines.go feed carriage (line.reverse ++ []) [] := splitLines_go_append absent []
  rw [List.append_nil] at joined
  rw [splitLines, joined, splitLines.go, List.append_nil, List.reverse_reverse, if_neg]
  simpa using nonempty

/-- A line feed closes what stands in front of a line. -/
theorem mem_splitLines_append {before rest line : List α}
    (closed : before = [] ∨ before.getLast? = some feed)
    (member : line ∈ splitLines feed carriage rest) :
    line ∈ splitLines feed carriage (before ++ rest) := by
  rcases closed with rfl | closed
  · exact member
  · obtain ⟨content, rfl⟩ := List.getLast?_eq_some_iff.1 closed
    rw [List.append_assoc, List.singleton_append, splitLines_append_feed]
    exact List.mem_append_right _ member

end Lines

end Screencast.Text
