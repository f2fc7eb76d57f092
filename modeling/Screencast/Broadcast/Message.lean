/-
This file defines what viewers are sent.
-/

import Screencast.Grabber.Banner
import Screencast.Recorder.Greeting

namespace Screencast.Broadcast

/-- A viewer watches the recorder's stream or the grabber's images. -/
inductive Format
  | h264
  | jpeg
  deriving DecidableEq, Repr

namespace Format

def name : Format → String
  | .h264 => "h264"
  | .jpeg => "jpeg"

def other : Format → Format
  | .h264 => .jpeg
  | .jpeg => .h264

/-- The error names the text that is no format. -/
def ofName (text : String) : Except String Format :=
  if text = Format.h264.name then .ok .h264
  else if text = Format.jpeg.name then .ok .jpeg
  else .error ("unknown stream format " ++ Text.Quoted.encode text)

end Format

/-- A stream is described before its first payload. -/
inductive StartInfo
  | h264 (width height : UInt32) (deviceName : String)
  | jpeg (width height : UInt32) (hints : Grabber.Hints)
  deriving DecidableEq, Repr

namespace StartInfo

def format : StartInfo → Format
  | .h264 .. => .h264
  | .jpeg .. => .jpeg

/-- The codec of a recorder's stream is always the same, so viewers are not told. -/
def ofDevice (info : Recorder.DeviceInfo) : StartInfo := .h264 info.width info.height info.name

/-- Images have the virtual size. -/
def ofBanner (banner : Grabber.Banner) : StartInfo :=
  .jpeg banner.virtualWidth banner.virtualHeight banner.hints

/-- The first field names the format. -/
def json : StartInfo → Text.Json.Value
  | .h264 width height deviceName =>
      .object [("type", .string Format.h264.name), ("width", .number width.toNat),
        ("height", .number height.toNat), ("deviceName", .string deviceName)]
  | .jpeg width height hints =>
      .object [("type", .string Format.jpeg.name), ("width", .number width.toNat),
        ("height", .number height.toNat), ("quirks", hints.json)]

end StartInfo

/-- A message starts a stream, carries a payload or reports that a stream could not start. -/
inductive Message
  | start (info : StartInfo)
  | frame (payload : Octets)
  | failure (text : String)
  deriving DecidableEq, Repr

end Screencast.Broadcast
