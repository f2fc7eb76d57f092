/-
This file follows the stations of one device from one to the next. Two of them run at once only when
a new one is opened while a station that left the table is still open.
-/

import Screencast.Broadcast.Directory
import Screencast.Proofs.Broadcast.Subscriptions

namespace Screencast.Broadcast

namespace Scene

theorem step_serial (scene : Scene) (input : Input) :
    (scene.step input).1.station.serial = scene.station.serial := by
  cases isOpen : scene.station.isOpen with
  | false => rw [(step_of_closed isOpen input).1]
  | true => rw [step_of_open isOpen, handle_serial]

end Scene

/-- A directory changes by these moves. A removal first takes a station out of the table, and so
does a shutdown with all of them. The input that closes such a station is a later move, and until
then other moves may come. Every station that was opened may receive inputs. -/
inductive Move
  | getOrSpawn (serial : String)
  | takeOut (serial : String)
  | takeAll
  | input (position : Nat) (input : Input)
  deriving DecidableEq, Repr

namespace Directory

def move (directory : Directory) : Move → Directory
  | .getOrSpawn serial => (directory.getOrSpawn serial).2
  | .takeOut serial => (directory.takeOut serial).2
  | .takeAll => directory.takeAll.2
  | .input position input => (directory.step position input).1

def after (directory : Directory) (moves : List Move) : Directory := moves.foldl move directory

/-- An open station of a device stands at a position. -/
def opensFor (directory : Directory) (serial : String) (position : Nat) : Bool :=
  (directory.station? position).any fun station => station.serial = serial && station.isOpen

/-- The station of a device at a position has a source that starts or runs. -/
def capturesFor (directory : Directory) (serial : String) (format : Format) (position : Nat) :
    Bool :=
  (directory.station? position).any fun station =>
    station.serial = serial && (station.session format).state ≠ .idle

/-- An open station of a device stands at a position to which the table does not lead. -/
def lingers (directory : Directory) (serial : String) (position : Nat) : Bool :=
  directory.opensFor serial position && directory.find? serial ≠ some position

/-- At most one station of a device has a source that starts or runs. -/
def Single (directory : Directory) (serial : String) (format : Format) : Prop :=
  ∀ first second, directory.capturesFor serial format first = true →
    directory.capturesFor serial format second = true → first = second

variable {directory : Directory} {serial : String}

theorem opensFor_iff {position : Nat} :
    directory.opensFor serial position = true ↔
      ∃ station, directory.station? position = some station ∧ station.serial = serial ∧
        station.isOpen = true := by
  simp [opensFor, Option.any_eq_true]

theorem capturesFor_iff {format : Format} {position : Nat} :
    directory.capturesFor serial format position = true ↔
      ∃ station, directory.station? position = some station ∧ station.serial = serial ∧
        (station.session format).state ≠ .idle := by
  simp [capturesFor, Option.any_eq_true]

/-- Taking a device out of the table does not change where the table leads for the others. -/
theorem find?_takeOut (directory : Directory) (serial other : String) :
    (directory.takeOut serial).2.find? other =
      if other = serial then none else directory.find? other := by
  simp only [takeOut, find?, List.find?_filter]
  by_cases same : other = serial
  · subst same
    rw [if_pos rfl, List.find?_eq_none.2, Option.map_none]
    intro entry _
    simp
  · rw [if_neg same]
    congr 2
    funext entry
    by_cases here : entry.1 = other <;> simp [here, same]

theorem find?_spawn (directory : Directory) (serial other : String) :
    (directory.spawn serial).2.find? other =
      if other = serial then some directory.stations.length else directory.find? other := by
  have others := find?_takeOut directory serial other
  simp only [takeOut, find?] at others
  simp only [spawn, find?, List.find?_append, Option.map_or, others]
  by_cases same : other = serial
  · simp [same]
  · simp [same, Ne.symm same]

theorem station?_spawn (directory : Directory) (serial : String) (position : Nat) :
    (directory.spawn serial).2.station? position =
      if position = directory.stations.length then some { serial := serial }
      else directory.station? position := by
  simp only [spawn, station?]
  by_cases new : position = directory.stations.length
  · simp [new]
  · rw [if_neg new, List.getElem?_append]
    split
    · rfl
    case isFalse outside =>
      have behind : position - directory.stations.length ≠ 0 := by omega
      rw [List.getElem?_eq_none (Nat.le_of_not_lt outside), List.getElem?_singleton, if_neg behind]

theorem station?_step (directory : Directory) (position other : Nat) (input : Input) :
    (directory.step position input).1.station? other =
      if other = position then (directory.station? position).map fun station =>
        (({ station, mail := directory.mail } : Scene).step input).1.station
      else directory.station? other := by
  rw [step]
  cases found : directory.station? position with
  | none =>
      by_cases same : other = position
      · rw [if_pos same, same, found]
        rfl
      · rw [if_neg same]
  | some station =>
      have inside : position < directory.stations.length := (List.getElem?_eq_some_iff.1 found).1
      by_cases same : other = position
      · subst same
        rw [if_pos rfl]
        exact List.getElem?_set_self inside
      · rw [if_neg same]
        exact List.getElem?_set_ne (Ne.symm same)

theorem find?_step (directory : Directory) (position : Nat) (input : Input) (serial : String) :
    (directory.step position input).1.find? serial = directory.find? serial := by
  rw [step]
  split <;> rfl

/-- A device is led to the open station in the table, or to a new one. -/
inductive Led (directory : Directory) (serial : String) : Directory → Prop
  | known (position : Nat) (found : directory.find? serial = some position)
      (isOpen : directory.isOpen position = true) : Led directory serial directory
  | fresh (gone : ∀ position, directory.find? serial = some position →
      directory.isOpen position = false) : Led directory serial (directory.spawn serial).2

theorem getOrSpawn_led (directory : Directory) (serial : String) :
    Led directory serial (directory.getOrSpawn serial).2 := by
  rw [getOrSpawn]
  cases found : directory.find? serial with
  | none => exact .fresh fun position other => by rw [found] at other; cases other
  | some position =>
      dsimp only
      split
      case isTrue isOpen => exact .known position found isOpen
      case isFalse closed =>
        refine .fresh fun other same => ?_
        obtain rfl := Option.some.inj (found.symm.trans same)
        exact Bool.eq_false_iff.2 closed

/-- The stations are coherent, and the table leads each device to a station of its own. -/
structure Sound (directory : Directory) : Prop where
  coherent : ∀ position station, directory.station? position = some station →
    ({ station := station } : Scene).Coherent
  table : ∀ serial position, directory.find? serial = some position →
    ∃ station, directory.station? position = some station ∧ station.serial = serial

namespace Sound

theorem new (mail : Mailboxes) : Sound { mail := mail } where
  coherent _ _ found := by cases found
  table _ _ found := by cases found

theorem spawn (sound : directory.Sound) (serial : String) : (directory.spawn serial).2.Sound where
  coherent position station found := by
    rw [station?_spawn] at found
    split at found
    · obtain rfl := Option.some.inj found
      exact .opened serial {}
    · exact sound.coherent position station found
  table other position found := by
    rw [find?_spawn] at found
    rw [station?_spawn]
    split at found
    case isTrue same =>
      obtain rfl := Option.some.inj found
      exact ⟨{ serial := serial }, if_pos rfl, same.symm⟩
    case isFalse =>
      obtain ⟨station, known, own⟩ := sound.table other position found
      have inside : position < directory.stations.length := (List.getElem?_eq_some_iff.1 known).1
      exact ⟨station, (if_neg (Nat.ne_of_lt inside)).trans known, own⟩

theorem step (sound : directory.Sound) (position : Nat) (input : Input) :
    (directory.step position input).1.Sound where
  coherent other station found := by
    rw [station?_step] at found
    split at found
    · obtain ⟨before, known, rfl⟩ := Option.map_eq_some_iff.1 found
      have coherent : ({ station := before, mail := directory.mail } : Scene).Coherent :=
        (sound.coherent position before known).ofStation rfl
      exact (coherent.step input).ofStation rfl
    · exact sound.coherent other station found
  table serial other found := by
    rw [find?_step] at found
    obtain ⟨station, known, own⟩ := sound.table serial other found
    rw [station?_step]
    split
    case isTrue same =>
      rw [← same, known]
      exact ⟨_, rfl, (Scene.step_serial _ input).trans own⟩
    case isFalse => exact ⟨station, known, own⟩

theorem move (sound : directory.Sound) (move : Move) : (directory.move move).Sound := by
  cases move with
  | getOrSpawn serial =>
      rw [Directory.move]
      have led := getOrSpawn_led directory serial
      generalize (directory.getOrSpawn serial).2 = next at led
      cases led with
      | known => exact sound
      | fresh => exact sound.spawn serial
  | takeOut serial =>
      refine ⟨sound.coherent, fun other position found => ?_⟩
      rw [Directory.move, find?_takeOut] at found
      split at found
      · cases found
      · exact sound.table other position found
  | takeAll => exact ⟨sound.coherent, fun other position found => by cases found⟩
  | input position input => exact sound.step position input

theorem after (sound : directory.Sound) (moves : List Move) : (directory.after moves).Sound := by
  induction moves generalizing directory with
  | nil => exact sound
  | cons first rest inductionHypothesis => exact inductionHypothesis (sound.move first)

end Sound

theorem isOpen_of_opensFor {position : Nat} (opens : directory.opensFor serial position = true) :
    directory.isOpen position = true := by
  obtain ⟨station, found, -, isOpen⟩ := opensFor_iff.1 opens
  rw [Directory.isOpen, found]
  exact isOpen

theorem opensFor_spawn {other : String} {position : Nat} :
    (directory.spawn other).2.opensFor serial position = true ↔
      (position = directory.stations.length ∧ other = serial) ∨
        directory.opensFor serial position = true := by
  rw [opensFor, station?_spawn]
  by_cases new : position = directory.stations.length
  · have absent : directory.opensFor serial directory.stations.length = false := by
      simp [opensFor, station?]
    simp [new, absent]
  · simp [new, opensFor]

/-- No input opens a station. -/
theorem opensFor_of_step {position other : Nat} {input : Input}
    (opens : (directory.step position input).1.opensFor serial other = true) :
    directory.opensFor serial other = true := by
  obtain ⟨station, found, own, isOpen⟩ := opensFor_iff.1 opens
  rw [station?_step] at found
  split at found
  case isTrue same =>
    obtain ⟨before, known, rfl⟩ := Option.map_eq_some_iff.1 found
    refine opensFor_iff.2 ⟨before, same ▸ known, (Scene.step_serial _ input).symm.trans own, ?_⟩
    by_contra closed
    rw [(Scene.step_of_closed (Bool.eq_false_iff.2 closed) input).1] at isOpen
    exact closed isOpen
  case isFalse => exact opensFor_iff.2 ⟨station, found, own, isOpen⟩

/-- Only an open station captures. -/
theorem Sound.opensFor_of_capturesFor (sound : directory.Sound) {format : Format}
    {position : Nat} (captures : directory.capturesFor serial format position = true) :
    directory.opensFor serial position = true := by
  obtain ⟨station, found, own, active⟩ := capturesFor_iff.1 captures
  refine opensFor_iff.2 ⟨station, found, own, ?_⟩
  by_contra closed
  exact active ((sound.coherent position station found).closed (Bool.eq_false_iff.2 closed) format)

/-- At most one station of a device is open. -/
def Sole (directory : Directory) (serial : String) : Prop :=
  ∀ first second, directory.opensFor serial first = true →
    directory.opensFor serial second = true → first = second

theorem Sole.single (sole : directory.Sole serial) (sound : directory.Sound) (format : Format) :
    directory.Single serial format :=
  fun first second one two =>
    sole first second (sound.opensFor_of_capturesFor one) (sound.opensFor_of_capturesFor two)

/-- A second station is opened only beside one that the table has lost. -/
theorem Sole.move (sole : directory.Sole serial) {move : Move}
    (settled : move = .getOrSpawn serial → ∀ position, directory.lingers serial position = false) :
    (directory.move move).Sole serial := by
  cases move with
  | getOrSpawn other =>
      rw [Directory.move]
      have led := getOrSpawn_led directory other
      generalize (directory.getOrSpawn other).2 = next at led
      cases led with
      | known => exact sole
      | fresh gone =>
          -- An open station of the device would be in the table, and it would be found there.
          have nobody : other = serial → ∀ position, directory.opensFor serial position ≠ true := by
            rintro rfl position opens
            have led := settled rfl position
            rw [lingers, opens, Bool.true_and, decide_eq_false_iff_not, not_not] at led
            exact Bool.false_ne_true ((gone position led).symm.trans (isOpen_of_opensFor opens))
          intro first second one two
          rcases opensFor_spawn.1 one with ⟨here, own⟩ | before
          · rcases opensFor_spawn.1 two with ⟨there, -⟩ | stays
            · exact here.trans there.symm
            · exact absurd stays (nobody own second)
          · rcases opensFor_spawn.1 two with ⟨-, own⟩ | stays
            · exact absurd before (nobody own first)
            · exact sole first second before stays
  | takeOut | takeAll => exact sole
  | input position input =>
      exact fun first second one two =>
        sole first second (opensFor_of_step one) (opensFor_of_step two)

theorem after_append (directory : Directory) (first second : List Move) :
    directory.after (first ++ second) = (directory.after first).after second :=
  List.foldl_append

/-- One station at a time is open when no lookup comes between the removal and the end of one. -/
theorem Sole.after (sole : directory.Sole serial) {moves : List Move}
    (settled : ∀ past, past ++ [.getOrSpawn serial] <+: moves → ∀ position,
      (directory.after past).lingers serial position = false) :
    (directory.after moves).Sole serial := by
  induction moves using List.reverseRecOn with
  | nil => exact sole
  | append_singleton former last inductionHypothesis =>
      have before := inductionHypothesis fun past begins =>
        settled past (begins.trans (List.prefix_append former [last]))
      rw [after_append]
      refine before.move ?_
      rintro rfl
      exact settled former List.prefix_rfl

theorem station?_step_of_ne {position other : Nat} (distinct : other ≠ position) (input : Input) :
    (directory.step position input).1.station? other = directory.station? other := by
  rw [station?_step, if_neg distinct]

/-- A viewer that subscribes at an open station makes its source start unless it starts or runs
already. -/
theorem Sound.capturesFor_subscribe (sound : directory.Sound) {position : Nat}
    (opens : directory.opensFor serial position = true) (viewer : ViewerId) (format : Format) :
    (directory.step position (.subscribe viewer format)).1.capturesFor serial format position =
      true := by
  obtain ⟨station, found, own, isOpen⟩ := opensFor_iff.1 opens
  have coherent : ({ station, mail := directory.mail } : Scene).Coherent :=
    (sound.coherent position station found).ofStation rfl
  have serials := Scene.step_serial { station, mail := directory.mail } (.subscribe viewer format)
  refine capturesFor_iff.2 ⟨_, ?_, serials.trans own, ?_⟩
  · rw [station?_step, if_pos rfl, found]
    rfl
  · have same : (Scene.turn { station, mail := directory.mail } format).session.format = format :=
      coherent.sorted format
    rw [(Scene.step_shows coherent.sorted isOpen (.subscribe viewer format) format).session,
      Turn.handle, if_pos same.symm]
    exact Turn.subscribe_active (coherent.sessions format) viewer _

/-- A lookup leads to an open station, and never to one that the table has lost. -/
theorem Sound.exists_led (sound : directory.Sound) (serial : String) :
    ∃ position, (directory.move (.getOrSpawn serial)).opensFor serial position = true ∧
      ∀ other, directory.lingers serial other = true → other ≠ position ∧
        (directory.move (.getOrSpawn serial)).opensFor serial other = true := by
  have parts {other : Nat} (lingers : directory.lingers serial other = true) :
      directory.opensFor serial other = true ∧ directory.find? serial ≠ some other := by
    rwa [Directory.lingers, Bool.and_eq_true, decide_eq_true_eq] at lingers
  rw [Directory.move]
  have led := getOrSpawn_led directory serial
  generalize (directory.getOrSpawn serial).2 = next at led
  cases led with
  | known position found isOpen =>
      obtain ⟨station, known, own⟩ := sound.table serial position found
      rw [Directory.isOpen, known] at isOpen
      refine ⟨position, opensFor_iff.2 ⟨station, known, own, isOpen⟩, fun other lingers => ?_⟩
      obtain ⟨opens, lost⟩ := parts lingers
      refine ⟨?_, opens⟩
      rintro rfl
      exact lost found
  | fresh =>
      refine ⟨directory.stations.length, opensFor_spawn.2 (.inl ⟨rfl, rfl⟩),
        fun other lingers => ?_⟩
      obtain ⟨opens, -⟩ := parts lingers
      obtain ⟨station, known, -⟩ := opensFor_iff.1 opens
      exact ⟨Nat.ne_of_lt (List.getElem?_eq_some_iff.1 known).1, opensFor_spawn.2 (.inr opens)⟩

/-- Two open stations of a device capture at once when viewers come to both. -/
theorem Sound.not_single (sound : directory.Sound) {first second : Nat}
    (distinct : first ≠ second) (one : directory.opensFor serial first = true)
    (two : directory.opensFor serial second = true) (viewer : ViewerId) (format : Format) :
    ¬ (directory.after [.input first (.subscribe viewer format),
      .input second (.subscribe viewer format)]).Single serial format := by
  have stays :
      (directory.step first (.subscribe viewer format)).1.opensFor serial second = true := by
    rwa [opensFor, station?_step_of_ne distinct.symm]
  have sounds := sound.step first (.subscribe viewer format)
  have latter := sounds.capturesFor_subscribe stays viewer format
  have former : ((directory.step first (.subscribe viewer format)).1.step second
      (.subscribe viewer format)).1.capturesFor serial format first = true := by
    rw [capturesFor, station?_step_of_ne distinct]
    exact sound.capturesFor_subscribe one viewer format
  exact fun single => distinct (single first second former latter)

/-- A device has one session of a format at a time, whatever its viewers do, exactly when nobody
looks it up while a station that left the table is still open. -/
theorem single_session_iff (mail : Mailboxes) (moves : List Move) (serial : String)
    (format : Format) :
    (∀ past, past <+: moves → ∀ inputs : List (Nat × Input),
      ((({ mail := mail } : Directory).after past).after
        (inputs.map fun input => .input input.1 input.2)).Single serial format) ↔
    ∀ past, past ++ [.getOrSpawn serial] <+: moves → ∀ position,
      (({ mail := mail } : Directory).after past).lingers serial position = false := by
  have new := Sound.new mail
  have nobody : ({ mail := mail } : Directory).Sole serial := fun _ _ one => by cases one
  constructor
  · -- A viewer at the lost station and one at the station that is found make both capture.
    intro single past looksUp position
    by_contra lingers
    have sound := new.after past
    obtain ⟨led, opens, apart⟩ := sound.exists_led serial
    obtain ⟨distinct, stays⟩ := apart position (Bool.not_eq_false _ ▸ lingers)
    have both := single _ looksUp [(position, .subscribe "" format), (led, .subscribe "" format)]
    rw [after_append] at both
    exact (sound.move _).not_single distinct stays opens "" format both
  · intro settled past begins inputs
    have sole := nobody.after fun former looksUp => settled former (looksUp.trans begins)
    refine Sole.single (sole.after fun former looksUp => ?_) ((new.after past).after _) format
    obtain ⟨input, -, lookup⟩ := List.mem_map.1 (looksUp.subset List.mem_concat_self)
    cases lookup

/-- A device is removed and looked up again before its first station is closed. The source of this
station is still running when that of the second one starts. -/
theorem two_sessions_in_gap :
    ¬ (({} : Directory).after [.getOrSpawn "device", .input 0 (.subscribe "viewer" .h264),
      .input 0 (.started .h264 (.live (.h264 720 1280 "phone"))), .takeOut "device",
      .getOrSpawn "device", .input 1 (.subscribe "other" .h264)]).Single "device" .h264 := by
  intro single
  exact absurd (single 0 1 (by decide +kernel) (by decide +kernel)) (by decide)

end Directory

end Screencast.Broadcast
