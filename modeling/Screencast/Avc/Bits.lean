/-
This file reads bits and exponential Golomb codes.
-/

import Screencast.Fault

namespace Screencast.Avc

/-- The first bit of an octet is its most significant one. -/
def octetBits (octet : UInt8) : List Bool :=
  [7, 6, 5, 4, 3, 2, 1, 0].map octet.toNat.testBit

/-- These are the bits of an octet string in their reading order. -/
def bits (octets : Octets) : List Bool := octets.flatMap octetBits

/-- A reader takes bits off the front of what remains. -/
abbrev BitReader := StateT (List Bool) (Except MediaFault)

/-- Reading past the end means that the unit was cut off. -/
def readBit : BitReader Bool
  | [] => .error .truncatedSps
  | bit :: rest => .ok (bit, rest)

/-- The bits are appended to a value from the right. -/
def readBitsOnto (value : UInt32) : (count : Nat) → BitReader UInt32
  | 0 => pure value
  | count + 1 => do
      let bit ← readBit
      readBitsOnto (value * 2 + if bit then 1 else 0) count

/-- This reads a number of fixed width. -/
def readBits (count : Nat) : BitReader UInt32 := readBitsOnto 0 count

/-- This counts the zeros before a one and allows only so many. -/
def readZeros : (allowed : Nat) → BitReader Nat
  | 0 => do
      if ← readBit then pure 0 else throw (.invalidSps .codeLength)
  | allowed + 1 => do
      if ← readBit then pure 0 else return (← readZeros allowed) + 1

/-- An unsigned code has as many bits behind its one as zeros before it. -/
def readUnsigned : BitReader UInt32 := do
  let zeros ← readZeros 31
  let suffix ← readBits zeros
  return (1 <<< zeros - 1 + suffix.toNat).toUInt32

/-- A signed code numbers the integers 0, 1, -1, 2, -2 and so on. -/
def readSigned : BitReader Int32 := do
  let code ← readUnsigned
  let value := (code.toNat : Int)
  return Int32.ofInt (if value % 2 = 1 then (value + 1) / 2 else -(value / 2))

end Screencast.Avc
