/-
This file follows the attempts of a grabber's start. A failed attempt gives everything back before
the next one, and the first success ends them.
-/

import Screencast.Grabber.Session
import Screencast.Proofs.Device.Holding

namespace Screencast.Grabber.Session

open Device Procedure Device.Session

variable {ω : Type}

/-- The names of some grabbers stand in their order, with a comma between each two of them. -/
def listing : List Kind → String
  | [] => ""
  | [kind] => kind.name
  | kind :: others => kind.name ++ ", " ++ listing others

theorem intercalate_name (kinds : List Kind) :
    String.intercalate ", " (kinds.map Kind.name) = listing kinds := by
  induction kinds with
  | nil => rfl
  | cons kind others inductionHypothesis =>
      cases others with
      | nil => exact String.intercalate_singleton
      | cons second others =>
          rw [listing.eq_3 _ _ (List.cons_ne_nil _ _), ← inductionHypothesis, List.map_cons,
            List.map_cons, String.intercalate_cons_cons]

/-- This shell command ends the programs whose command line has its pattern. -/
def Ends (kill launched : String) : Prop :=
  ∃ pattern front back : String, pattern ≠ "" ∧ kill = "pkill -f " ++ pattern ∧
    launched = front ++ pattern ++ back

/-- A program is ended by the word that names it in its command line. -/
theorem ends_of_word (front word arguments : String) (nonempty : word ≠ "") :
    Ends ("pkill -f " ++ word) (front ++ (word ++ " ") ++ arguments) := by
  refine ⟨word, front, " " ++ arguments, nonempty, rfl, ?_⟩
  simp only [String.append_assoc]

/-- Each grabber is ended by the command that is for it. -/
theorem ends_command (kind : Kind) (arguments : String) :
    Ends kind.killCommand (kind.command arguments) := by
  cases kind with
  | native =>
      have kill : Kind.native.killCommand =
          "pkill -f " ++ "/data/local/tmp/minicap-devel/minicap" := by decide +kernel
      have program : "/data/local/tmp/minicap-devel/minicap " =
          "/data/local/tmp/minicap-devel/minicap" ++ " " := by decide +kernel
      have launched : Kind.native.command arguments =
          "LD_LIBRARY_PATH=/data/local/tmp/minicap-devel " ++
            "/data/local/tmp/minicap-devel/minicap " ++ arguments := rfl
      rw [kill, launched, program]
      exact ends_of_word _ _ arguments (by decide)
  | java =>
      have kill : Kind.java.killCommand = "pkill -f " ++ "io.devicefarmer.minicap.Main" := by
        decide +kernel
      have program : "io.devicefarmer.minicap.Main " = "io.devicefarmer.minicap.Main" ++ " " := by
        decide +kernel
      have launched : Kind.java.command arguments =
          "CLASSPATH=/data/local/tmp/minicap.apk app_process /system/bin " ++
            "io.devicefarmer.minicap.Main " ++ arguments := rfl
      rw [kill, launched, program]
      exact ends_of_word _ _ arguments (by decide)

/-- The projection and the settings choose what is launched. -/
abbrev launching (settings : Settings) (projection : Projection) (kind : Kind) : String :=
  kind.command (projection.arguments settings.quality settings.frameRate)

/-- These attempts failed one after another. Each launched its grabber once, and gave everything
back before the next one. -/
inductive Failed (settings : Settings) (projection : Projection) :
    List Kind → List Exchange → Prop
  | untried : Failed settings projection [] []
  | next {kinds : List Kind} {earlier own : List Exchange} {kind : Kind} {fault : Fault}
      (failed : Failed settings projection kinds earlier)
      (returned : Returned (launching settings projection) Kind.killCommand [kind] (some fault)
        own) :
      Failed settings projection (kinds ++ [kind]) (earlier ++ own)

/-- An attempt that succeeds holds all of its resources, and a failed one some of them. -/
def Holding (settings : Settings) (projection : Projection) (kind : Kind) (log : List Exchange)
    (state : Session) : Except Fault Banner → Prop
  | .ok _ => Noted (launching settings projection) [kind] none log state ∧
      ∃ process hostPort socket, state =
        ⟨some (kind, process), some hostPort, some socket, some kind⟩
  | .error fault => Noted (launching settings projection) [kind] (some fault) log state

/-- Each failure point leaves what was acquired before it. -/
theorem tryGrabber_keeps (settings : Settings) (projection : Projection) (kind : Kind) :
    ((tryGrabber settings projection kind).run {}).Keeps
      (Underway (launching settings projection) Kind.killCommand)
      (Holding settings projection kind) [] := by
  have new : Noted (launching settings projection) [] none [] {} := .new
  refine .wait (.acquiring new rfl) fun spawned => ?_
  cases spawned with
  | error fault => exact .done (new.unlaunched kind fault)
  | ok process =>
  have running := new.launched rfl kind process
  refine .wait (.acquiring running rfl) fun ready => ?_
  cases ready with
  | error fault => exact .done (running.neutral (.awaitReady ..) rfl (.error fault))
  | ok prompt =>
  have ready := running.neutral (.awaitReady process kind settings.readyLimit) rfl (.ok prompt)
  refine .bind (ready.forward_keeps rfl Kind.killCommand settings.localPort
    settings.remoteSocket) ?_
  rintro log state result forwarding
  cases result with
  | error fault => exact .done forwarding.2
  | ok hostPort =>
  obtain ⟨rfl, forwarded⟩ := forwarding
  refine .wait (.acquiring forwarded rfl) fun connected => ?_
  cases connected with
  | error fault => exact .done (forwarded.neutral (.connect ..) rfl (.error fault))
  | ok socket =>
  have connected := forwarded.neutral (.connect hostPort .notListening settings.connectAttempts
    settings.connectDelay) rfl (.ok socket)
  refine .wait (.acquiring connected rfl) fun read => ?_
  cases read with
  | error fault => exact .done (connected.neutral (.readBanner ..) rfl (.error fault))
  | ok banner =>
  have read := connected.neutral (.readBanner socket settings.bannerLimit) rfl (.ok banner)
  exact .done ⟨read.reading (some socket) (some kind), process, hostPort, socket, rfl⟩

/-- All attempts failed, or one succeeded behind failed ones and holds exactly its resources. -/
inductive Attempted (settings : Settings) (projection : Projection) :
    List Exchange → Session → Except Fault Banner → Prop
  | exhausted {log : List Exchange} (failed : Failed settings projection settings.grabbers log) :
      Attempted settings projection log {}
        (.error (.grabber (.exhausted (listing settings.grabbers))))
  | up {kinds rest : List Kind} {earlier own : List Exchange} {kind : Kind} {process : ProcessId}
      {hostPort : UInt16} {socket : SocketId} {banner : Banner}
      (order : settings.grabbers = kinds ++ kind :: rest)
      (failed : Failed settings projection kinds earlier)
      (noted : Noted (launching settings projection) [kind] none own
        ⟨some (kind, process), some hostPort, some socket, some kind⟩) :
      Attempted settings projection (earlier ++ own)
        ⟨some (kind, process), some hostPort, some socket, some kind⟩ (.ok banner)

/-- An attempt is underway behind failed ones. -/
def Attempting (settings : Settings) (projection : Projection) (log : List Exchange)
    (state : Session) (operation : Operation) : Prop :=
  ∃ kinds earlier own, log = earlier ++ own ∧ Failed settings projection kinds earlier ∧
    Underway (launching settings projection) Kind.killCommand own state operation

/-- The attempts go on as long as they fail. -/
theorem tryEach_keeps (settings : Settings) (projection : Projection) {kinds rest : List Kind}
    {log : List Exchange} (order : settings.grabbers = kinds ++ rest)
    (failed : Failed settings projection kinds log) :
    (tryEach settings projection (kinds.map Kind.name) rest {}).Keeps
      (Attempting settings projection) (Attempted settings projection) log := by
  -- The grabbers that are left become fewer and those that failed more, and all stay the same.
  induction rest generalizing kinds log with
  | nil =>
      rw [List.append_nil] at order
      subst order
      rw [tryEach, intercalate_name]
      exact .done (.exhausted failed)
  | cons kind rest inductionHypothesis =>
      have waits : ∀ later (state : Session) operation, (∃ own, later = log ++ own ∧
          Underway (launching settings projection) Kind.killCommand own state operation) →
          Attempting settings projection later state operation := by
        rintro later state operation ⟨own, split, underway⟩
        exact ⟨kinds, log, own, split, failed, underway⟩
      refine .bind (((tryGrabber_keeps settings projection kind).behind
        (List.append_nil log).symm).weaken waits fun _ _ _ held => held) ?_
      rintro _ state result ⟨own, rfl, holding⟩
      cases result with
      | ok banner =>
          obtain ⟨noted, process, hostPort, socket, rfl⟩ := holding
          exact .done (.up order failed noted)
      | error fault =>
          refine .bind (((holding.release_keeps Kind.killCommand).behind rfl).weaken waits
            fun _ _ _ ended => ended) ?_
          rintro _ state _ ⟨later, rfl, rfl, returned⟩
          have more : settings.grabbers = (kinds ++ [kind]) ++ rest := by simp [order]
          have next := inductionHypothesis more (failed.next returned)
          rwa [List.map_append] at next

/-- The request for the screen size comes before all attempts. -/
abbrev sizing (answer : Except Fault String) : Exchange := ⟨.request (.shell sizeCommand), answer⟩

/-- A start waits for the screen size first. -/
inductive Starting (settings : Settings) : List Exchange → Session → Operation → Prop
  | sizing : Starting settings [] {} (.request (.shell sizeCommand))
  | attempting {output : String} {projection : Projection} {log : List Exchange} {state : Session}
      {operation : Operation} (sized : project settings output = .ok projection)
      (attempting : Attempting settings projection log state operation) :
      Starting settings (sizing (.ok output) :: log) state operation

/-- Nothing is launched without a screen size. -/
inductive Started (settings : Settings) :
    List Exchange → Session → Except Fault Banner → Prop
  | silent {fault : Fault} : Started settings [sizing (.error fault)] {} (.error fault)
  | unsized {output : String} {fault : Fault} (unsized : project settings output = .error fault) :
      Started settings [sizing (.ok output)] {} (.error fault)
  | attempted {output : String} {projection : Projection} {log : List Exchange} {state : Session}
      {result : Except Fault Banner} (sized : project settings output = .ok projection)
      (attempted : Attempted settings projection log state result) :
      Started settings (sizing (.ok output) :: log) state result

theorem start_keeps (settings : Settings) :
    (start settings {}).Keeps (Starting settings) (Started settings) [] := by
  refine .wait .sizing fun answer => ?_
  cases answer with
  | error fault => exact .done .silent
  | ok output =>
      cases size : project settings output with
      | error fault =>
          simp only [Procedure.bind, size]
          exact .done (.unsized size)
      | ok projection =>
          simp only [Procedure.bind, size]
          have before : Failed settings projection [] [] := .untried
          have tried := tryEach_keeps settings projection
            (List.nil_append settings.grabbers).symm before
          have split : [sizing (.ok output)] = [sizing (.ok output)] ++ [] := rfl
          refine (tried.behind split).weaken ?_ ?_
          · rintro _ state operation ⟨log, rfl, attempting⟩
            exact .attempting size attempting
          · rintro _ state result ⟨log, rfl, attempted⟩
            exact .attempted size attempted

/-- In every world, the attempts of a start go in the order of the grabbers. Each grabber is ended by
a command of its own that is for what was launched. A stop gives back what the start holds, and
another stop exchanges nothing. Writing the exchanges down changes nothing. -/
theorem attempts_in_order (settings : Settings) (world later : World ω) (outside : ω) :
    let started := (start settings {}).run world.recorded (outside, [])
    let stopped := (stop started.2.1).run later.recorded started.2.2
    (start settings {}).run world outside = (started.1, started.2.1, started.2.2.1) ∧
      Started settings started.2.2.2 started.2.1 started.1 ∧
      ((∀ projection kind, Ends kind.killCommand (launching settings projection kind)) ∧
        Function.Injective Kind.killCommand) ∧
      (∃ released late, stopped.2.2.2 = started.2.2.2 ++ released ∧
        Account.of released = started.2.1.returns Kind.killCommand late) ∧
      stopped.2.1 = {} ∧
      ∀ (again : World ω) (outside : ω),
        (stop stopped.2.1).run again outside = ((), {}, outside) := by
  intro started stopped
  have begun : Started settings started.2.2.2 started.2.1 started.1 :=
    (start_keeps settings).run world outside
  obtain ⟨new, released, late, split, account⟩ :=
    release_returns Kind.killCommand started.2.1 later started.2.2.1 started.2.2.2
  refine ⟨run_recorded world _ outside [], begun, ⟨?_, ?_⟩, ⟨released, late, split, account⟩, new,
    ?_⟩
  · intro projection kind
    exact ends_command kind _
  · intro first second same
    cases first <;> cases second <;> first | rfl | exact absurd same (by decide)
  · intro again outside
    exact (congrArg (fun state => (stop state).run again outside) new).trans
      (release_new Kind.killCommand again outside)

/-- Each process of this world has a number of its own, and only some of them listen. -/
def listeningWorld (listens : ProcessId → Bool) : World ProcessId
  | .request _, next => (.ok "Physical size: 1080x1920", next)
  | .spawn _, next => (.ok next, next + 1)
  | .kill _, next => ((), next)
  | .reservePort, next => (.ok 27183, next)
  | .pause _, next => ((), next)
  | .connect .., next => (if listens (next - 1) then .ok 3 else .error .cancelled, next)
  | .greet .., next => (.error .cancelled, next)
  | .awaitReady .., next => (.ok (), next)
  | .readBanner .., next => (.ok ⟨1, 9, 1080, 1920, 1080, 1920, 0, {}⟩, next)

/-- The native grabber does not listen. Its forward is removed and it is killed, and then the Java
grabber comes up. -/
theorem attempts_in_order_second :
    let world := (listeningWorld (· = 8)).recorded
    let started := (start {} {}).run world (7, [])
    let stopped := (stop started.2.1).run world started.2.2
    Started {} started.2.2.2 started.2.1 started.1 ∧
      started.2.1 = ⟨some (.java, 8), some 27183, some 3, some .java⟩ ∧
      ((Account.of started.2.2.2).processes.map Prod.snd, (Account.of started.2.2.2).removals,
        (Account.of started.2.2.2).kills, (Account.of started.2.2.2).shells) =
          ([7, 8], [27183], [7], [sizeCommand, "pkill -f /data/local/tmp/minicap-devel/minicap"]) ∧
      stopped.2.1 = {} := by
  have inOrder := attempts_in_order {} (listeningWorld (· = 8)) (listeningWorld (· = 8)) 7
  exact ⟨inOrder.2.1, by decide +kernel, by decide +kernel, inOrder.2.2.2.2.1⟩

example : ((start {} {}).run (listeningWorld fun _ => false) 7).1 =
    .error (.grabber (.exhausted "minicap, minicap-apk")) := by
  rfl

end Screencast.Grabber.Session
