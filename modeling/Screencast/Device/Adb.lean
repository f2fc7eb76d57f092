/-
This file tells what becomes of a request that the bridge program `adb` carries out.
-/

import Screencast.Device.Request
import Screencast.Fault
import Screencast.Text.Blank
import Screencast.Text.Line
import Screencast.Text.Utf8

namespace Screencast.Device.Adb

/-- A program exits with a code of one octet or is ended by a signal. -/
inductive ExitStatus
  | code (value : UInt8)
  | signal (number : Nat)
  deriving DecidableEq, Repr

namespace ExitStatus

/-- The signals are numbered from one in this order. -/
def signalNames : List String :=
  ["SIGHUP", "SIGINT", "SIGQUIT", "SIGILL", "SIGTRAP", "SIGABRT", "SIGBUS", "SIGFPE", "SIGKILL",
    "SIGUSR1", "SIGSEGV", "SIGUSR2", "SIGPIPE", "SIGALRM", "SIGTERM", "SIGSTKFLT", "SIGCHLD",
    "SIGCONT", "SIGSTOP", "SIGTSTP", "SIGTTIN", "SIGTTOU", "SIGURG", "SIGXCPU", "SIGXFSZ",
    "SIGVTALRM", "SIGPROF", "SIGWINCH", "SIGIO", "SIGPWR", "SIGSYS"]

def isSuccess (status : ExitStatus) : Bool := status = .code 0

/-- A signal without a name is told by its number alone. -/
def text : ExitStatus → String
  | .code value => "exit status: " ++ toString value
  | .signal number =>
      "signal: " ++ toString number ++
        match (if 0 < number then signalNames[number - 1]? else none) with
        | some name => " (" ++ name ++ ")"
        | none => ""

end ExitStatus

/-- A run of the program fails to begin, because its arguments are refused or there is no such
program, or it ends after some time. -/
inductive Run
  | refused
  | missing
  | ended (duration : Span) (status : ExitStatus) (output errors : Octets)
  deriving DecidableEq, Repr

namespace Run

/-- A zero character ends an argument, so an argument cannot hold one. -/
def accepts (arguments : List String) : Bool :=
  arguments.all fun argument => argument.toList.all fun letter => letter.toNat ≠ 0

/-- The arguments are looked at before the program is looked for. -/
def ofCall (arguments : List String) (run : Run) : Run :=
  if accepts arguments then run else .refused

/-- Only a program that begins receives its arguments. -/
def received (arguments : List String) : Run → List String
  | .ended .. => arguments
  | _ => []

end Run

/-- A request is given up after this time. -/
def requestLimit : Span := .ofSeconds 30

/-- The operating system does not hand over such arguments. -/
def refusedArguments : Fault := .transport ⟨.other, "nul byte found in provided data"⟩

/-- The operating system has no such program. -/
def missingProgram : Fault := .transport ⟨.other, "No such file or directory (os error 2)"⟩

/-- A failure is reported with the request and what the program said about it. -/
def failure (request : Request) (status : ExitStatus) (errors : Octets) : Fault :=
  .bridge ("adb " ++ String.intercalate " " request.arguments ++ " exited with " ++ status.text ++
    ": " ++ Text.trim (Text.Utf8.decodeLossy errors))

/-- A request that succeeds before the limit answers with the output of the program. -/
def answer (request : Request) (limit : Span) : Run → Except Fault String
  | .refused => .error refusedArguments
  | .missing => .error missingProgram
  | .ended duration status output errors =>
      if limit.nanoseconds ≤ duration.nanoseconds then .error (.timeout .bridgeCommand)
      else if status.isSuccess then .ok (Text.Utf8.decodeLossy output)
      else .error (failure request status errors)

/-- A stream is read line by line up to an ill-formed line. -/
def streamLines (octets : Octets) : List String :=
  (((Text.splitLines 10 13 octets).map Text.Utf8.decode?).takeWhile Option.isSome).filterMap id

/-- A process under watch shows the lines of both its streams, and its end does not matter. -/
def watch : Run → Except Fault (List String)
  | .refused => .error refusedArguments
  | .missing => .error missingProgram
  | .ended _ _ output errors => .ok (streamLines output ++ streamLines errors)

end Screencast.Device.Adb
