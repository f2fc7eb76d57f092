/-
This file decides when a grabber that was launched is ready for a connection.
-/

import Screencast.Fault
import Screencast.Grabber.Kind
import Screencast.Text.Line

namespace Screencast.Grabber

/-- A ready grabber prints its process number or the word ready in any case. -/
def isReadyLine (line : String) : Bool :=
  "PID:".toList.isPrefixOf line.toList ||
    Text.contains "ready".toList (Text.lowerAscii line.toList)

/-- A process prints its lines and then stays alive or exits. -/
structure Printout where
  lines : List String
  alive : Bool
  deriving DecidableEq, Repr

/-- This reads up to the first ready line and leaves the lines behind it. -/
def awaitReady (kind : Kind) (printout : Printout) : Except GrabberFault (List String) :=
  match printout.lines.dropWhile fun line => !isReadyLine line with
  | _ :: rest => .ok rest
  | [] => .error (if printout.alive then .notReady kind.name else .exited kind.name)

end Screencast.Grabber
