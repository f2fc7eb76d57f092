/-
This file defines what a running source sends.
-/

import Screencast.Octets

namespace Screencast

/-- A source sends payloads, and it sends one end with the reason of a failure. -/
inductive SourceEvent
  | data (payload : Octets)
  | ended (reason : Option String)
  deriving DecidableEq, Repr

/-- The far end of a socket closes it, keeps it open without sending, or breaks it. -/
inductive SocketEnd
  | closed
  | held
  | broken (text : String)
  deriving DecidableEq, Repr

end Screencast
