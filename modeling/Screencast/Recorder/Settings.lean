/-
This file holds the settings of a recording session and the command that launches the recorder.
-/

import Screencast.Text.Span

namespace Screencast.Recorder

/-- The two generations of the recorder take other arguments and greet in another way. -/
inductive Generation
  | legacy
  | versioned
  deriving DecidableEq, Repr

/-- The recorder runs this class on the device. -/
def serverClass : String := "com.genymobile.scrcpy.Server"

/-- This ends a recorder that outlived its shell. -/
def killCommand : String := "pkill -f com.genymobile.scrcpy.Server"

/-- Each generation is deployed in one version by default. -/
def Generation.version : Generation → String
  | .legacy => "1.24"
  | .versioned => "3.3.3"

/-- A session is set up once for all its starts. -/
structure Settings where
  generation : Generation := .versioned
  serverFile : String := "scrcpy-server.jar"
  remotePath : String := "/data/local/tmp/scrcpy-server.jar"
  version : String := Generation.versioned.version
  socketName : String := "scrcpy"
  /-- Without a fixed TCP port a free one is reserved. -/
  localPort : Option UInt16 := none
  /-- Zero leaves the size of the screen. -/
  maxSize : UInt32 := 0
  bitRate : UInt32 := 8000000
  /-- Zero sets no limit. -/
  maxFps : UInt32 := 0
  logLevel : String := "info"
  sendDummy : Bool := true
  sendName : Bool := true
  sendCodec : Bool := true
  settleDelay : Span := .ofSeconds 3
  connectAttempts : Nat := 5
  connectDelay : Span := .ofMilliseconds 200
  greetingLimit : Span := .ofSeconds 10
  eventCapacity : Nat := 256
  readSize : Nat := 65536
  deriving DecidableEq, Repr

namespace Settings

/-- The choice of a generation also chooses its version. -/
def withGeneration (settings : Settings) (generation : Generation) : Settings :=
  { settings with generation, version := generation.version }

/-- There is at least one attempt. -/
def withRetry (settings : Settings) (attempts : Nat) (delay : Span) : Settings :=
  { settings with connectAttempts := max attempts 1, connectDelay := delay }

/-- The recorder listens on this socket of the device. -/
def remoteSocket (settings : Settings) : String := "localabstract:" ++ settings.socketName

/-- A versioned recorder takes named arguments. -/
def namedArguments (settings : Settings) : List String :=
  ["tunnel_forward=true",
    "max_size=" ++ toString settings.maxSize,
    "video_bit_rate=" ++ toString settings.bitRate] ++
  (if 0 < settings.maxFps then ["max_fps=" ++ toString settings.maxFps] else []) ++
  ["audio=false",
    "control=false",
    "send_device_meta=" ++ toString settings.sendName,
    "send_frame_meta=false",
    "send_codec_meta=" ++ toString settings.sendCodec,
    "send_dummy_byte=" ++ toString settings.sendDummy,
    "log_level=" ++ settings.logLevel]

/-- A legacy recorder takes arguments by their position: the orientation lock, the tunnel, the
crop, frame headers, control, the display, touches, wakefulness, codec options, encoder and power
follow the limits. -/
def positionalArguments (settings : Settings) : List String :=
  [settings.logLevel, toString settings.maxSize, toString settings.bitRate,
    toString settings.maxFps, "-1", "true", "-", "false", "false", "0", "false", "false", "-", "-",
    "false"]

/-- This shell command runs the recorder on the device. -/
def launchCommand (settings : Settings) : String :=
  String.intercalate " "
    (["CLASSPATH=" ++ settings.remotePath, "app_process", "/", serverClass, settings.version] ++
      match settings.generation with
      | .versioned => settings.namedArguments
      | .legacy => settings.positionalArguments)

end Settings

end Screencast.Recorder
