/-
This file writes down what a procedure exchanges with its world, and says what it means that a
procedure keeps a rule for all answers that it may get.
-/

import Screencast.Device.Procedure

namespace Screencast.Device

/-- An exchange is an operation with its answer. -/
structure Exchange where
  operation : Operation
  answer : operation.Answer

namespace Operation

/-- An answer is a failure or tells of none. -/
def fault? : (operation : Operation) → operation.Answer → Option Fault
  | .request _, .error fault => some fault
  | .spawn _, .error fault => some fault
  | .reservePort, .error fault => some fault
  | .connect .., .error fault => some fault
  | .greet .., .error fault => some fault
  | .awaitReady .., .error fault => some fault
  | .readBanner .., .error fault => some fault
  | _, _ => none

/-- This removes the forward of a TCP port, even if the request fails. -/
def removal? : Operation → Option UInt16
  | .request (.removeForward hostPort) => some hostPort
  | _ => none

def kill? : Operation → Option ProcessId
  | .kill process => some process
  | _ => none

/-- This shell command is run on the device. -/
def shell? : Operation → Option String
  | .request (.shell command) => some command
  | _ => none

/-- This command is launched, or its launch fails. -/
def launch? : Operation → Option String
  | .spawn command => some command
  | _ => none

end Operation

namespace Exchange

def fault? (exchange : Exchange) : Option Fault := exchange.operation.fault? exchange.answer

/-- This TCP port is forwarded from here on. -/
def forward? : Exchange → Option UInt16
  | ⟨.request (.forward hostPort _), .ok _⟩ => some hostPort
  | _ => none

/-- This process runs the command from here on. -/
def process? : Exchange → Option (String × ProcessId)
  | ⟨.spawn command, .ok process⟩ => some (command, process)
  | _ => none

end Exchange

/-- An account sums up a log: what was acquired, what was to be launched, what was to be released,
and the first failure. -/
structure Account where
  forwards : List UInt16 := []
  processes : List (String × ProcessId) := []
  launches : List String := []
  removals : List UInt16 := []
  kills : List ProcessId := []
  shells : List String := []
  fault : Option Fault := none
  deriving DecidableEq

namespace Account

def of (log : List Exchange) : Account where
  forwards := log.filterMap Exchange.forward?
  processes := log.filterMap Exchange.process?
  launches := log.filterMap fun exchange => exchange.operation.launch?
  removals := log.filterMap fun exchange => exchange.operation.removal?
  kills := log.filterMap fun exchange => exchange.operation.kill?
  shells := log.filterMap fun exchange => exchange.operation.shell?
  fault := log.findSome? Exchange.fault?

/-- One account goes on with another one. -/
def append (first second : Account) : Account where
  forwards := first.forwards ++ second.forwards
  processes := first.processes ++ second.processes
  launches := first.launches ++ second.launches
  removals := first.removals ++ second.removals
  kills := first.kills ++ second.kills
  shells := first.shells ++ second.shells
  fault := first.fault.or second.fault

theorem of_append (first second : List Exchange) :
    of (first ++ second) = (of first).append (of second) := by
  simp only [of, append, List.filterMap_append, List.findSome?_append]

end Account

namespace Procedure

variable {σ α β ω : Type}

/-- This world answers as another one and writes down every exchange. -/
def World.recorded (world : World ω) : World (ω × List Exchange) := fun operation outside =>
  let answered := world operation outside.1
  (answered.1, answered.2, outside.2 ++ [⟨operation, answered.1⟩])

/-- Writing the exchanges down changes neither the run nor the world. -/
theorem run_recorded (world : World ω) (procedure : Procedure σ α) (outside : ω)
    (log : List Exchange) :
    let ended := procedure.run world.recorded (outside, log)
    procedure.run world outside = (ended.1, ended.2.1, ended.2.2.1) := by
  induction procedure generalizing outside log with
  | done => rfl
  | wait state operation resume inductionHypothesis =>
      exact inductionHypothesis _ (world operation outside).2 _

/-- A procedure that is dropped after some operations was waiting for this one. -/
def awaited (world : World ω) : Procedure σ α → (count : Nat) → ω → Option Operation
  | .done .., _, _ => none
  | .wait _ operation _, 0, _ => some operation
  | .wait _ operation resume, count + 1, outside =>
      (resume (world operation outside).1).awaited world count (world operation outside).2

/-- Behind some exchanges, a procedure keeps a rule whenever it waits for an operation and ends as
promised, whatever the answers are. -/
def Keeps (waiting : List Exchange → σ → Operation → Prop) (ending : List Exchange → σ → α → Prop) :
    Procedure σ α → List Exchange → Prop
  | .done state value, log => ending log state value
  | .wait state operation resume, log =>
      waiting log state operation ∧
        ∀ answer, (resume answer).Keeps waiting ending (log ++ [⟨operation, answer⟩])

namespace Keeps

variable {waiting : List Exchange → σ → Operation → Prop} {ending : List Exchange → σ → α → Prop}
  {log : List Exchange}

theorem done {state : σ} {value : α} (ends : ending log state value) :
    (Procedure.done state value).Keeps waiting ending log := ends

theorem wait {state : σ} {operation : Operation} {resume : operation.Answer → Procedure σ α}
    (waits : waiting log state operation)
    (next : ∀ answer, (resume answer).Keeps waiting ending (log ++ [⟨operation, answer⟩])) :
    (Procedure.wait state operation resume).Keeps waiting ending log := ⟨waits, next⟩

/-- A promise is kept in a weaker form too, and so is a rule. -/
theorem weaken {procedure : Procedure σ α} (keeps : procedure.Keeps waiting ending log)
    {rule : List Exchange → σ → Operation → Prop} {promise : List Exchange → σ → α → Prop}
    (waits : ∀ log state operation, waiting log state operation → rule log state operation)
    (ends : ∀ log state value, ending log state value → promise log state value) :
    procedure.Keeps rule promise log := by
  induction procedure generalizing log with
  | done state value => exact ends _ _ _ keeps
  | wait state operation resume inductionHypothesis =>
      exact ⟨waits _ _ _ keeps.1, fun answer => inductionHypothesis answer (keeps.2 answer)⟩

/-- A procedure keeps its rule behind other exchanges too. -/
theorem behind {procedure : Procedure σ α} (keeps : procedure.Keeps waiting ending log)
    {earlier whole : List Exchange} (split : whole = earlier ++ log) :
    procedure.Keeps
      (fun later state operation => ∃ own, later = earlier ++ own ∧ waiting own state operation)
      (fun later state value => ∃ own, later = earlier ++ own ∧ ending own state value) whole := by
  induction procedure generalizing log whole with
  | done state value => exact ⟨log, split, keeps⟩
  | wait state operation resume inductionHypothesis =>
      refine ⟨⟨log, split, keeps.1⟩, fun answer => inductionHypothesis answer (keeps.2 answer) ?_⟩
      rw [split, List.append_assoc]

/-- What follows a procedure begins where it ended. -/
theorem bind {procedure : Procedure σ α} (keeps : procedure.Keeps waiting ending log)
    {next : α → σ → Procedure σ β} {last : List Exchange → σ → β → Prop}
    (follows : ∀ log state value, ending log state value →
      (next value state).Keeps waiting last log) :
    (procedure.bind next).Keeps waiting last log := by
  induction procedure generalizing log with
  | done state value => exact follows _ _ _ keeps
  | wait state operation resume inductionHypothesis =>
      exact ⟨keeps.1, fun answer => inductionHypothesis answer (keeps.2 answer)⟩

/-- In every world, a run ends as promised. -/
theorem run {procedure : Procedure σ α} (keeps : procedure.Keeps waiting ending log)
    (world : World ω) (outside : ω) :
    let ended := procedure.run world.recorded (outside, log)
    ending ended.2.2.2 ended.2.1 ended.1 := by
  induction procedure generalizing log outside with
  | done state value => exact keeps
  | wait state operation resume inductionHypothesis =>
      exact inductionHypothesis _ (keeps.2 _) (world operation outside).2

/-- In every world, a procedure that is dropped kept the rule for the operation that it waited for,
unless it was done before. -/
theorem drop {procedure : Procedure σ α} (keeps : procedure.Keeps waiting ending log)
    (world : World ω) (count : Nat) (outside : ω) :
    let dropped := procedure.drop world.recorded count (outside, log)
    match procedure.awaited world.recorded count (outside, log) with
    | some operation => waiting dropped.2.2 dropped.1 operation
    | none => ∃ value, ending dropped.2.2 dropped.1 value := by
  induction procedure generalizing log outside count with
  | done state value => exact ⟨value, keeps⟩
  | wait state operation resume inductionHypothesis =>
      cases count with
      | zero => exact keeps.1
      | succ count => exact inductionHypothesis _ (keeps.2 _) count (world operation outside).2

end Keeps

end Procedure

end Screencast.Device
