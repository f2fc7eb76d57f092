/-
This file reads and writes the addresses at which a host can be reached.
-/

import Screencast.Text.Digits

namespace Screencast

/-- A host has an address of 32 bits, or one of 128 bits with a zone that is mostly zero. -/
inductive Host
  | four (first second third fourth : UInt8)
  | six (groups : List UInt16) (zone : UInt32)
  deriving DecidableEq, Repr

/-- An address is one TCP port of a host. -/
structure Address where
  host : Host
  number : UInt16
  deriving DecidableEq, Repr

namespace Address

/-- A reader takes what it knows off the front of a text. -/
abbrev Reader := StateT (List Char) Option

/-- This takes one given character. -/
def skip (expected : Char) : Reader Unit
  | letter :: rest => if letter = expected then some ((), rest) else none
  | [] => none

/-- This takes a run of digits. Without `leadingZeros` only zero itself begins with a zero. -/
def readNumber (digit? : Char → Option Nat) (base most limit : Nat) (leadingZeros : Bool) :
    Reader Nat := fun letters =>
  let digits := (letters.map digit?).takeWhile Option.isSome |>.filterMap id
  let value := digits.foldl (fun value digit => value * base + digit) 0
  if digits.isEmpty || most < digits.length || limit ≤ value then none
  else if !leadingZeros && digits.head? = some 0 && 1 < digits.length then none
  else some (value, letters.drop digits.length)

/-- A short address has four decimal octets with points between them. -/
def readFour : Reader Host := do
  let octet := readNumber Text.digitValue? 10 3 256 false
  let first ← octet
  skip '.'
  let second ← octet
  skip '.'
  let third ← octet
  skip '.'
  let fourth ← octet
  return .four first.toUInt8 second.toUInt8 third.toUInt8 fourth.toUInt8

def hexValue? (letter : Char) : Option Nat :=
  (List.range 16).find? fun value => Text.hexDigit value = letter.toLower

/-- Two octets make a group. -/
def pairUp (first second : UInt8) : UInt16 := first.toUInt16 * 256 + second.toUInt16

/-- This reads up to `room` groups with colons between them and tells whether the last two were
written as a short address. -/
def readGroups (first : Bool) : (room : Nat) → List Char → List UInt16 × Bool × List Char
  | 0, letters => ([], false, letters)
  | room + 1, letters =>
      let after := if first then some letters else ((skip ':').run letters).map Prod.snd
      match after with
      | none => ([], false, letters)
      | some start =>
          match (if 1 ≤ room then readFour.run start else none) with
          | some (.four first second third fourth, rest) =>
              ([pairUp first second, pairUp third fourth], true, rest)
          | _ =>
              match (readNumber hexValue? 16 4 UInt16.size true).run start with
              | none => ([], false, letters)
              | some (group, rest) =>
                  let (groups, short, rest) := readGroups false room rest
                  (group.toUInt16 :: groups, short, rest)

/-- A long address has eight groups. Two colons together stand for the zero groups that are left
out, at least one. -/
def readSix : Reader (List UInt16) := fun letters =>
  let (head, short, rest) := readGroups true 8 letters
  if head.length = 8 then some (head, rest)
  else if short then none
  else
    match rest with
    | ':' :: ':' :: rest =>
        let (tail, _, rest) := readGroups true (7 - head.length) rest
        some (head ++ List.replicate (8 - head.length - tail.length) 0 ++ tail, rest)
    | _ => none

/-- A zone is written behind a percent sign. -/
def readZone : Reader UInt32 := fun letters =>
  match letters with
  | '%' :: rest => do
      let (zone, rest) ← (readNumber Text.digitValue? 10 rest.length UInt32.size true).run rest
      return (zone.toUInt32, rest)
  | _ => some (0, letters)

/-- A long address stands between brackets. -/
def readHost : Reader Host := fun letters =>
  match letters with
  | '[' :: rest => (do
      let groups ← readSix
      let zone ← readZone
      skip ']'
      return Host.six groups zone : Reader Host).run rest
  | _ => readFour.run letters

/-- The number follows the host behind a colon, and nothing follows the number. -/
def parse? (text : String) : Option Address := do
  let (host, rest) ← readHost.run text.toList
  let ((), rest) ← (skip ':').run rest
  let (number, rest) ← (readNumber Text.digitValue? 10 rest.length UInt16.size true).run rest
  if rest.isEmpty then some { host, number := number.toUInt16 } else none

def fourText (first second third fourth : UInt8) : String :=
  String.intercalate "." ([first, second, third, fourth].map fun octet => toString octet)

def groupsText (groups : List UInt16) : String :=
  String.intercalate ":" (groups.map fun group => String.ofList (Text.hexDigits group.toNat))

/-- This is the length of the run of zero groups at an index. -/
def zerosAt (groups : List UInt16) (index : Nat) : Nat :=
  ((groups.drop index).takeWhile (· = 0)).length

/-- The first of the longest runs of zero groups. -/
def longestZeros (groups : List UInt16) : Nat × Nat :=
  (List.range groups.length).foldl (fun best index =>
    if best.2 < zerosAt groups index then (index, zerosAt groups index) else best) (0, 0)

/-- A long address leaves out its longest run of two or more zero groups. One that stands for a
short address shows it. -/
def sixText (groups : List UInt16) : String :=
  match groups with
  | [0, 0, 0, 0, 0, 0xFFFF, high, low] =>
      "::ffff:" ++ fourText (high / 256).toUInt8 high.toUInt8 (low / 256).toUInt8 low.toUInt8
  | _ =>
      let (index, count) := longestZeros groups
      if count < 2 then groupsText groups
      else groupsText (groups.take index) ++ "::" ++ groupsText (groups.drop (index + count))

def text (address : Address) : String :=
  (match address.host with
    | .four first second third fourth => fourText first second third fourth
    | .six groups zone =>
        "[" ++ sixText groups ++ (if zone = 0 then "" else "%" ++ toString zone) ++ "]") ++
    ":" ++ toString address.number

/-- A host reaches itself at this address. -/
def loopback (number : UInt16) : Address := ⟨.four 127 0 0 1, number⟩

end Address

end Screencast
