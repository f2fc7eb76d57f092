/-
This file cuts texts at line ends and at separators.
-/

namespace Screencast.Text

/-- A line that ended in a line feed loses one carriage return before it. -/
def dropReturn {α : Type} [DecidableEq α] (carriage : α) (line : List α) : List α :=
  if line.getLast? = some carriage then line.dropLast else line

/-- Lines end at line feeds, and what follows the last line feed is a line unless it is empty. -/
def splitLines {α : Type} [DecidableEq α] (feed carriage : α) (content : List α) : List (List α) :=
  go [] content
where
  /-- The open line is held in reverse. -/
  go (line : List α) : List α → List (List α)
    | [] => if line.isEmpty then [] else [line.reverse]
    | item :: rest =>
        if item = feed then dropReturn carriage line.reverse :: go [] rest
        else go (item :: line) rest

/-- These are the lines of a text. -/
def lines (letters : List Char) : List (List Char) := splitLines '\n' '\r' letters

/-- This cuts a text at the first occurrence of a separator, which belongs to neither part. -/
def cutAt? (separator : Char) (letters : List Char) : Option (List Char × List Char) :=
  match letters.dropWhile (· ≠ separator) with
  | [] => none
  | _ :: rest => some (letters.takeWhile (· ≠ separator), rest)

/-- A text contains another when some suffix of it starts with the other. -/
def contains (part : List Char) : List Char → Bool
  | [] => part.isEmpty
  | letter :: rest => part.isPrefixOf (letter :: rest) || contains part rest

/-- Only ASCII letters have a lower case here. -/
def lowerAscii (letters : List Char) : List Char := letters.map Char.toLower

end Screencast.Text
