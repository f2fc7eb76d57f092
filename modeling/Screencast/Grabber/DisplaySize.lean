/-
This file reads the screen size that a device reports.
-/

import Screencast.Fault
import Screencast.Text.Blank
import Screencast.Text.Digits
import Screencast.Text.Line

namespace Screencast.Grabber.DisplaySize

/-- A size is the physical one or one that overrides it. -/
inductive Label
  | physical
  | override
  deriving DecidableEq, Repr

def Label.text : Label → String
  | .physical => "Physical size"
  | .override => "Override size"

/-- Width and height are numbers with a letter x between them. -/
def size? (letters : List Char) : Option (UInt32 × UInt32) := do
  let (width, height) ← Text.cutAt? 'x' letters
  return (← Text.word? (Text.trimBlanks width), ← Text.word? (Text.trimBlanks height))

/-- A well-formed line has a label, a colon and a size. -/
def line? (line : List Char) : Option (Label × UInt32 × UInt32) := do
  let (label, value) ← Text.cutAt? ':' line
  let size ← size? (Text.trimBlanks value)
  let label ← [Label.physical, Label.override].find? fun known =>
    known.text.toList = Text.trimBlanks label
  return (label, size)

/-- The last well-formed line with a label gives its size. -/
def last? (label : Label) (lines : List (Label × UInt32 × UInt32)) : Option (UInt32 × UInt32) :=
  (lines.reverse.find? fun line => line.1 = label).map Prod.snd

/-- An overriding size comes before a physical one. -/
def parse (output : String) : Except GrabberFault (UInt32 × UInt32) :=
  let lines := (Text.lines output.toList).filterMap line?
  match (last? .override lines).or (last? .physical lines) with
  | some size => .ok size
  | none => .error (.displaySize (Text.trim output))

end Screencast.Grabber.DisplaySize
