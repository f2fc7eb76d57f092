/-
This file defines the texts that viewers and the gateway exchange.
-/

import Screencast.Broadcast.Message

namespace Screencast.Gateway

/-- A viewer asks for a stream or for none. -/
inductive ViewerCommand
  | on (format : Broadcast.Format)
  | off
  deriving DecidableEq, Repr

/-- The plain word asks for the recorder's stream. Any other text is no command. -/
def ViewerCommand.parse? (text : String) : Option ViewerCommand :=
  let word := Text.trimBlanks text.toList
  let asked := "on:".toList
  if word = "on".toList then some (.on .h264)
  else if word = "off".toList then some .off
  else if asked.isPrefixOf word then
    (Broadcast.Format.ofName (String.ofList (word.drop asked.length))).toOption.map .on
  else none

/-- The gateway sends this now and then to every viewer. -/
def ping : String := "ping"

section Writing

variable (writer : Text.Json.Writer)

/-- A stream is announced by one word and the description as JSON. -/
def startMessage (info : Broadcast.StartInfo) : Except Fault String :=
  match writer.serialize info.json with
  | .ok body => .ok ("start " ++ body)
  | .error text => .error (.json text)

/-- A failure is a JSON object with one field. -/
def errorMessage (message : String) : String :=
  writer.display (.object [("error", .string message)])

end Writing

/-- The compact writer always gives an announcement. -/
def startText (info : Broadcast.StartInfo) : String := "start " ++ Text.Json.text info.json

def failureText (message : String) : String := errorMessage .compact message

end Screencast.Gateway
