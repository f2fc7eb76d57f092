/-
This file lists the grabber builds and the commands that launch and end them.
-/

import Screencast.Text.Quoted

namespace Screencast.Grabber

/-- A grabber is the native program or the Java program for devices where the native one fails. -/
inductive Kind
  | native
  | java
  deriving DecidableEq, Repr

namespace Kind

/-- The grabbers are tried in this order. -/
def defaultOrder : List Kind := [.native, .java]

def name : Kind → String
  | .native => "minicap"
  | .java => "minicap-apk"

/-- The error names the text that is no grabber. -/
def ofName (text : String) : Except String Kind :=
  match defaultOrder.find? fun kind => kind.name = text with
  | some kind => .ok kind
  | none => .error ("unknown grabber " ++ Text.Quoted.encode text)

/-- This shell command runs the grabber on the device. -/
def command (kind : Kind) (arguments : String) : String :=
  match kind with
  | .native => "LD_LIBRARY_PATH=/data/local/tmp/minicap-devel " ++
      "/data/local/tmp/minicap-devel/minicap " ++ arguments
  | .java => "CLASSPATH=/data/local/tmp/minicap.apk app_process /system/bin " ++
      "io.devicefarmer.minicap.Main " ++ arguments

/-- This shell command ends every running instance of the grabber. -/
def killCommand : Kind → String
  | .native => "pkill -f /data/local/tmp/minicap-devel/minicap"
  | .java => "pkill -f io.devicefarmer.minicap.Main"

end Kind

end Screencast.Grabber
