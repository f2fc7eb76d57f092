/-
This file reads the banner that a grabber sends before its images.
-/

import Screencast.Fault
import Screencast.Text.Json

namespace Screencast.Grabber

/-- These flags tell a viewer how to show the images. -/
structure Hints where
  /-- Images come whether or not the screen changed. -/
  dumb : Bool := false
  /-- Images must not be turned. -/
  alwaysUpright : Bool := false
  /-- Images may show parts of two screens. -/
  tear : Bool := false
  deriving DecidableEq, Repr

namespace Hints

/-- The three lowest bits hold the flags. -/
def ofBits (bits : UInt8) : Hints :=
  { dumb := bits.toNat.testBit 0, alwaysUpright := bits.toNat.testBit 1,
    tear := bits.toNat.testBit 2 }

def json (hints : Hints) : Text.Json.Value :=
  .object [("dumb", .boolean hints.dumb), ("alwaysUpright", .boolean hints.alwaysUpright),
    ("tear", .boolean hints.tear)]

end Hints

/-- A banner describes the grabber and its projection. -/
structure Banner where
  version : UInt8
  pid : UInt32
  realWidth : UInt32
  realHeight : UInt32
  virtualWidth : UInt32
  virtualHeight : UInt32
  /-- The orientation counts degrees. -/
  orientation : UInt16
  hints : Hints
  deriving DecidableEq, Repr

namespace Banner

/-- A banner has at least this size. -/
def leastSize : Nat := 24

/-- The number at an index of the record has 32 bits, with the least octet first. -/
def word (octets : Octets) (index : Nat) : UInt32 :=
  (Octets.ofLittleEndian ((octets.drop (2 + 4 * index)).take 4)).toUInt32

/-- The second octet declares the length. Octets behind the known fields are ignored. -/
def parse (octets : Octets) : Except GrabberFault Banner :=
  if octets.length < leastSize then .error (.invalidBanner .truncated)
  else if (octets.getD 1 0).toNat < leastSize then .error (.invalidBanner .declaredLength)
  else .ok {
    version := octets.getD 0 0
    pid := word octets 0
    realWidth := word octets 1
    realHeight := word octets 2
    virtualWidth := word octets 3
    virtualHeight := word octets 4
    orientation := (octets.getD 22 0).toUInt16 * 90
    hints := .ofBits (octets.getD 23 0) }

/-- This takes an exact count of octets from reads that may be divided in any way. -/
def takeExactly (count : Nat) : List Octets → Option (Octets × List Octets)
  | [] => if count = 0 then some ([], []) else none
  | read :: reads =>
      if count ≤ read.length then some (read.take count, read.drop count :: reads)
      else (takeExactly (count - read.length) reads).map fun (octets, rest) =>
        (read ++ octets, rest)

/-- The socket ended inside the banner. -/
def earlyEnd : Fault := .transport ⟨.other, "early eof"⟩

/-- This reads a banner of the length that it declares and leaves the reads behind it. -/
def read (reads : List Octets) : Except Fault (Banner × List Octets) := do
  let some (head, reads) := takeExactly 2 reads | throw earlyEnd
  let declared := (head.getD 1 0).toNat
  if declared < leastSize then throw (.grabber (.invalidBanner .declaredLength))
  let some (body, reads) := takeExactly (declared - 2) reads | throw earlyEnd
  match parse (head ++ body) with
  | .ok banner => return (banner, reads)
  | .error fault => throw (.grabber fault)

end Banner

end Screencast.Grabber
