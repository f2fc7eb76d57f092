/-
This file defines spans of time and how they are written.
-/

namespace Screencast

/-- A span of time counts nanoseconds. -/
structure Span where
  nanoseconds : Nat
  deriving DecidableEq, Repr

namespace Span

def ofMilliseconds (count : Nat) : Span := ⟨count * 1000000⟩

def ofSeconds (count : Nat) : Span := ⟨count * 1000000000⟩

/-- This drops the part below a millisecond. -/
def milliseconds (span : Span) : Nat := span.nanoseconds / 1000000

/-- The longest span has 64 bits of whole seconds and almost one second more. -/
def longest : Span := ⟨UInt64.size * 1000000000 - 1⟩

/-- Doubling stops at the longest span. -/
def double (span : Span) : Span := ⟨min (span.nanoseconds * 2) longest.nanoseconds⟩

/-- A fraction has this many places and drops its trailing zeros. -/
def fraction (places value : Nat) : List Char :=
  let digits := (Nat.toDigits 10 value)
  let padded := List.replicate (places - digits.length) '0' ++ digits
  ((padded.reverse.dropWhile (· = '0')).reverse)

/-- A count of units is written with the fraction that remains below one unit. -/
def count (span : Span) (unit places : Nat) (name : String) : String :=
  let rest := fraction places (span.nanoseconds % unit)
  let point := if rest.isEmpty then [] else '.' :: rest
  toString (span.nanoseconds / unit) ++ String.ofList point ++ name

/-- A span is written in the largest of its units s, ms, µs and ns that it fills. -/
def text (span : Span) : String :=
  if 1000000000 ≤ span.nanoseconds then span.count 1000000000 9 "s"
  else if 1000000 ≤ span.nanoseconds then span.count 1000000 6 "ms"
  else if 1000 ≤ span.nanoseconds then span.count 1000 3 "µs"
  else span.count 1 0 "ns"

end Span

end Screencast
