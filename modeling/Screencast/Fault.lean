/-
This file lists the causes of failure and gives each its message.
-/

import Screencast.Octets
import Screencast.Text.Quoted
import Screencast.Text.Span

namespace Screencast

/-- These are the ways in which a sequence parameter set breaks its rules. -/
inductive SpsDefect
  | wrongUnit
  | chromaFormat
  | pictureOrderCycle
  | pictureOrderType
  | codeLength
  | horizontalCrop
  | verticalCrop
  | dimensions
  deriving DecidableEq, Repr

def SpsDefect.message : SpsDefect → String
  | .wrongUnit => "not an SPS unit"
  | .chromaFormat => "chroma_format_idc out of range"
  | .pictureOrderCycle => "pic order cycle too long"
  | .pictureOrderType => "pic_order_cnt_type out of range"
  | .codeLength => "exp-Golomb code too long"
  | .horizontalCrop => "horizontal crop exceeds width"
  | .verticalCrop => "vertical crop exceeds height"
  | .dimensions => "dimensions out of range"

/-- A bitstream or its decoder is not usable. -/
inductive MediaFault
  | truncatedSps
  | invalidSps (defect : SpsDefect)
  | missingParameterSets
  | notConfigured (strategy : String)
  | unsupportedStream (head : Octets)
  | noStrategy
  deriving DecidableEq, Repr

/-- The octets are listed between brackets. -/
def octetList (octets : Octets) : String :=
  "[" ++ String.intercalate ", " (octets.map fun octet => String.ofList (Text.hexPair octet)) ++ "]"

def MediaFault.message : MediaFault → String
  | .truncatedSps => "Truncated SPS"
  | .invalidSps defect => "Invalid SPS: " ++ defect.message
  | .missingParameterSets => "Decoder configuration needs both SPS and PPS"
  | .notConfigured strategy => "Strategy " ++ strategy ++ " not configured"
  | .unsupportedStream head => "Unsupported stream (first bytes " ++ octetList head ++ ")"
  | .noStrategy => "No sink strategy available for this decoder"

/-- The recorder did not introduce itself. -/
inductive GreetingFault
  | closed (received : Nat)
  | late (limit : Span)
  deriving DecidableEq, Repr

def GreetingFault.message : GreetingFault → String
  | .closed received => "Connection closed after " ++ toString received ++ " handshake bytes"
  | .late limit => "No handshake within " ++ limit.text

/-- These are the ways in which a banner breaks its rules. -/
inductive BannerDefect
  | truncated
  | declaredLength
  deriving DecidableEq, Repr

def BannerDefect.message : BannerDefect → String
  | .truncated => "truncated"
  | .declaredLength => "declared length too small"

/-- A grabber did not come up or sent what it must not send. -/
inductive GrabberFault
  | exited (grabber : String)
  | notReady (grabber : String)
  | invalidBanner (defect : BannerDefect)
  | frameTooLarge (limit : Nat)
  | exhausted (attempted : String)
  | displaySize (output : String)
  deriving DecidableEq, Repr

def GrabberFault.message : GrabberFault → String
  | .exited grabber => "Grabber " ++ grabber ++ " exited before becoming ready"
  | .notReady grabber => "Grabber " ++ grabber ++ " not ready in time"
  | .invalidBanner defect => "Invalid banner: " ++ defect.message
  | .frameTooLarge limit => "Frame exceeds the " ++ toString limit ++ " byte limit"
  | .exhausted attempted => "All grabbers failed (" ++ attempted ++ ")"
  | .displaySize output => "Could not determine display size from " ++ Text.Quoted.encode output

/-- A refused connection is told apart because its socket may still open. -/
inductive TransportKind
  | refused
  | other
  deriving DecidableEq, Repr

/-- The operating system reported this. -/
structure TransportFault where
  kind : TransportKind
  text : String
  deriving DecidableEq, Repr

/-- These are the waits that end a whole operation when they run out. -/
inductive Awaited
  | bridgeCommand
  | grabberBanner
  deriving DecidableEq, Repr

def Awaited.name : Awaited → String
  | .bridgeCommand => "adb command"
  | .grabberBanner => "grabber banner"

/-- Every failure of the library has one of these causes. -/
inductive Fault
  | transport (fault : TransportFault)
  | bridge (text : String)
  | greeting (fault : GreetingFault)
  | grabber (fault : GrabberFault)
  | media (fault : MediaFault)
  | json (text : String)
  | connectExhausted (address : String) (attempts : Nat)
  | timeout (awaited : Awaited)
  | cancelled
  | relayClosed
  deriving DecidableEq, Repr

/-- A message names the stage that failed before the cause. -/
def Fault.message : Fault → String
  | .transport fault => "I/O error: " ++ fault.text
  | .bridge text => "Device bridge error: " ++ text
  | .greeting fault => "Handshake error: " ++ fault.message
  | .grabber fault => "Grabber error: " ++ fault.message
  | .media fault => "Media error: " ++ fault.message
  | .json text => "JSON error: " ++ text
  | .connectExhausted address attempts =>
      "Could not connect to " ++ address ++ " after " ++ toString attempts ++ " attempts"
  | .timeout awaited => "Timed out waiting for " ++ awaited.name
  | .cancelled => "Operation cancelled"
  | .relayClosed => "Relay closed"

end Screencast
