/-
This file shows that a banner is read back as it was written, whatever length it declares, and that
the images behind it are left untouched.
-/

import Mathlib.Data.Nat.Bitwise
import Screencast.Grabber.Conversation
import Screencast.Proofs.Grabber.Images

namespace Screencast.Grabber.Banner

/-- These are the fields of a banner as they are sent. -/
structure Fields where
  version : UInt8
  pid : UInt32
  realWidth : UInt32
  realHeight : UInt32
  virtualWidth : UInt32
  virtualHeight : UInt32
  /-- The orientation is sent in quarter turns. -/
  turns : UInt8
  flags : UInt8
  deriving DecidableEq, Repr

namespace Fields

def words (fields : Fields) : List UInt32 :=
  [fields.pid, fields.realWidth, fields.realHeight, fields.virtualWidth, fields.virtualHeight]

/-- The declared length stands behind the version, and the extra octets stand last. -/
def octets (fields : Fields) (declared : UInt8) (extra : Octets) : Octets :=
  [fields.version, declared] ++
    (fields.words.flatMap (fun word => Octets.littleEndian 4 word.toNat) ++
      ([fields.turns, fields.flags] ++ extra))

/-- This is the banner that the fields mean. -/
def banner (fields : Fields) : Banner where
  version := fields.version
  pid := fields.pid
  realWidth := fields.realWidth
  realHeight := fields.realHeight
  virtualWidth := fields.virtualWidth
  virtualHeight := fields.virtualHeight
  orientation := (90 * fields.turns.toNat).toUInt16
  hints :=
    { dumb := fields.flags &&& 1 != 0, alwaysUpright := fields.flags &&& 2 != 0,
      tear := fields.flags &&& 4 != 0 }

theorem length_words (words : List UInt32) :
    (words.flatMap fun word => Octets.littleEndian 4 word.toNat).length = 4 * words.length := by
  induction words with
  | nil => rfl
  | cons word rest inductionHypothesis =>
      rw [List.flatMap_cons, List.length_append, inductionHypothesis, Octets.length_littleEndian,
        List.length_cons]
      omega

theorem length_octets (fields : Fields) (declared : UInt8) (extra : Octets) :
    (fields.octets declared extra).length = 24 + extra.length := by
  rw [octets, List.length_append, List.length_append, length_words, List.length_append, words]
  simp only [List.length_cons, List.length_nil]
  omega

/-- A degree count fits into its field. -/
theorem toNat_orientation (fields : Fields) :
    fields.banner.orientation.toNat = 90 * fields.turns.toNat := by
  have small := fields.turns.toNat_lt
  rw [banner, UInt16.toNat_ofNat']
  omega

theorem orientation_eq (fields : Fields) :
    fields.turns.toUInt16 * 90 = fields.banner.orientation := by
  have small := fields.turns.toNat_lt
  rw [← UInt16.toNat_inj, toNat_orientation, UInt16.toNat_mul, UInt8.toNat_toUInt16]
  change fields.turns.toNat * 90 % 65536 = _
  omega

end Fields

/-- A flag is set where its bit is. -/
theorem testBit_eq (flags bit : UInt8) (index : Nat) (single : bit.toNat = 1 <<< index) :
    flags.toNat.testBit index = (flags &&& bit != 0) := by
  have masked : (flags &&& bit).toNat = (flags.toNat.testBit index).toNat * 2 ^ index := by
    rw [UInt8.toNat_and, single, Nat.one_shiftLeft, Nat.and_two_pow]
  have zero : flags &&& bit = 0 ↔ (flags &&& bit).toNat = 0 := by
    rw [← UInt8.toNat_inj, UInt8.toNat_zero]
  rw [Bool.eq_iff_iff, bne_iff_ne, ne_eq, zero, masked]
  cases flags.toNat.testBit index <;> simp

theorem ofBits_eq (fields : Fields) : Hints.ofBits fields.flags = fields.banner.hints := by
  rw [Hints.ofBits, testBit_eq fields.flags 1 0 rfl, testBit_eq fields.flags 2 1 rfl,
    testBit_eq fields.flags 4 2 rfl]
  rfl

/-- A number stands behind two octets and the numbers in front of it. -/
theorem word_written {front : Octets} (two : front.length = 2) {words : List UInt32}
    (rest : Octets) {index : Nat} (present : index < words.length) :
    word (front ++ (words.flatMap (fun word => Octets.littleEndian 4 word.toNat) ++ rest)) index =
      words[index] := by
  rw [word, ← List.drop_drop, List.drop_left' two]
  induction words generalizing index with
  | nil => exact absurd present (Nat.not_lt_zero index)
  | cons first others inductionHypothesis =>
      have length := Octets.length_littleEndian 4 first.toNat
      rw [List.flatMap_cons, List.append_assoc]
      cases index with
      | zero =>
          rw [Nat.mul_zero, List.drop_zero, List.take_left' length,
            Octets.ofLittleEndian_littleEndian]
          exact (congrArg Nat.toUInt32 (Nat.mod_eq_of_lt first.toNat_lt)).trans UInt32.ofNat_toNat
      | succ index =>
          rw [Nat.mul_succ, Nat.add_comm, ← List.drop_drop, List.drop_left' length]
          exact inductionHypothesis (Nat.lt_of_succ_lt_succ present)

theorem word_octets (fields : Fields) (declared : UInt8) (extra : Octets) (index : Fin 5) :
    word (fields.octets declared extra) index = fields.words.get index :=
  word_written rfl _ index.isLt

/-- The extra octets do not matter. -/
theorem parse_octets (fields : Fields) {declared : UInt8} (least : 24 ≤ declared.toNat)
    (extra : Octets) : parse (fields.octets declared extra) = .ok fields.banner := by
  have long : ¬ (fields.octets declared extra).length < leastSize := by
    rw [Fields.length_octets, leastSize]
    omega
  have enough : ¬ ((fields.octets declared extra).getD 1 0).toNat < leastSize := Nat.not_lt.2 least
  have words := word_octets fields declared extra
  have orientation : ((fields.octets declared extra).getD 22 0).toUInt16 * 90 =
      fields.banner.orientation := fields.orientation_eq
  have hints : Hints.ofBits ((fields.octets declared extra).getD 23 0) = fields.banner.hints :=
    ofBits_eq fields
  rw [parse, if_neg long, if_neg enough, orientation, hints, Fields.banner, Except.ok.injEq,
    Banner.mk.injEq]
  exact ⟨rfl, words 0, words 1, words 2, words 3, words 4, rfl, rfl⟩

/-- Enough octets are taken from the front of the stream. -/
theorem takeExactly_of_long {count : Nat} {reads : List Octets}
    (long : count ≤ reads.flatten.length) :
    ∃ rest, takeExactly count reads = some (reads.flatten.take count, rest) ∧
      rest.flatten = reads.flatten.drop count := by
  induction reads generalizing count with
  | nil =>
      obtain rfl := Nat.le_zero.1 long
      exact ⟨[], rfl, rfl⟩
  | cons read reads inductionHypothesis =>
      rw [takeExactly, List.flatten_cons]
      by_cases whole : count ≤ read.length
      · rw [if_pos whole, List.take_append_of_le_length whole, List.drop_append_of_le_length whole]
        exact ⟨_, rfl, rfl⟩
      · have above := Nat.le_of_not_le whole
        rw [List.flatten_cons, List.length_append] at long
        obtain ⟨rest, taken, behind⟩ :=
          inductionHypothesis (Nat.sub_le_of_le_add (Nat.add_comm .. ▸ long))
        rw [if_neg whole, taken, List.take_append, List.drop_append, List.take_of_length_le above,
          List.drop_eq_nil_of_le above]
        exact ⟨rest, rfl, behind⟩

theorem takeExactly_of_short {count : Nat} {reads : List Octets}
    (short : reads.flatten.length < count) : takeExactly count reads = none := by
  induction reads generalizing count with
  | nil => exact if_neg (Nat.ne_of_gt short)
  | cons read reads inductionHypothesis =>
      rw [List.flatten_cons, List.length_append] at short
      rw [takeExactly, if_neg (by omega), inductionHypothesis (by omega), Option.map_none]

section

variable {reads : List Octets}

theorem read_of_few (few : reads.flatten.length < 2) : read reads = .error earlyEnd := by
  rw [read, takeExactly_of_short few]
  rfl

variable {version declared : UInt8} {rest : Octets}

/-- The two octets that say how long the banner is are read first. -/
theorem takeExactly_two (stream : reads.flatten = version :: declared :: rest) :
    ∃ others, takeExactly 2 reads = some ([version, declared], others) ∧
      others.flatten = rest := by
  have long : 2 ≤ reads.flatten.length := by
    rw [stream]
    exact Nat.le_add_left 2 rest.length
  have taken := takeExactly_of_long long
  rwa [stream] at taken

/-- A declared length that is too small is a fault before anything else is read. -/
theorem read_of_small (stream : reads.flatten = version :: declared :: rest)
    (small : declared.toNat < 24) :
    read reads = .error (.grabber (.invalidBanner .declaredLength)) := by
  obtain ⟨others, taken, -⟩ := takeExactly_two stream
  have below : ([version, declared].getD 1 0).toNat < leastSize := small
  rw [read, taken]
  dsimp only
  rw [if_pos below]
  rfl

/-- A banner that is cut off is not read. -/
theorem read_of_short (stream : reads.flatten = version :: declared :: rest)
    (least : 24 ≤ declared.toNat) (short : rest.length + 2 < declared.toNat) :
    read reads = .error earlyEnd := by
  obtain ⟨others, taken, behind⟩ := takeExactly_two stream
  have enough : ¬ ([version, declared].getD 1 0).toNat < leastSize := Nat.not_lt.2 least
  have missing : takeExactly (([version, declared].getD 1 0).toNat - 2) others = none :=
    takeExactly_of_short (by rw [behind]; exact Nat.lt_sub_of_add_lt short)
  rw [read, taken]
  dsimp only
  rw [if_neg enough, missing]
  rfl

/-- A whole banner is read, and the stream goes on behind its declared length. -/
theorem read_of_long (stream : reads.flatten = version :: declared :: rest)
    (least : 24 ≤ declared.toNat) (long : declared.toNat ≤ rest.length + 2) {banner : Banner}
    (parsed : parse (reads.flatten.take declared.toNat) = .ok banner) :
    ∃ others, read reads = .ok (banner, others) ∧
      others.flatten = reads.flatten.drop declared.toNat := by
  obtain ⟨length, counted⟩ : ∃ length, declared.toNat = length + 2 :=
    ⟨declared.toNat - 2, by omega⟩
  obtain ⟨middle, taken, behind⟩ := takeExactly_two stream
  have enough : ¬ ([version, declared].getD 1 0).toNat < leastSize := Nat.not_lt.2 least
  have counts : ([version, declared].getD 1 0).toNat - 2 = length := Nat.sub_eq_of_eq_add counted
  have present : length ≤ middle.flatten.length := by
    rw [behind]
    omega
  obtain ⟨others, body, left⟩ := takeExactly_of_long present
  have whole : parse ([version, declared] ++ middle.flatten.take length) = .ok banner := by
    rw [behind]
    rwa [stream, counted] at parsed
  refine ⟨others, ?_, left.trans ?_⟩
  · rw [read, taken]
    dsimp only
    rw [if_neg enough, counts, body]
    dsimp only
    rw [whole]
    rfl
  · rw [stream, counted, behind]
    rfl

/-- A written banner is read, and the stream goes on behind it. -/
theorem read_octets (fields : Fields) {extra tail : Octets}
    (filled : 24 + extra.length = declared.toNat)
    (stream : reads.flatten = fields.octets declared extra ++ tail) :
    ∃ others, read reads = .ok (fields.banner, others) ∧ others.flatten = tail := by
  have length : (fields.octets declared extra).length = declared.toNat := by
    rw [Fields.length_octets, filled]
  have least : 24 ≤ declared.toNat := filled ▸ Nat.le_add_right 24 extra.length
  have front : reads.flatten.take declared.toNat = fields.octets declared extra := by
    rw [stream, List.take_left' length]
  have behind : reads.flatten.drop declared.toNat = tail := by
    rw [stream, List.drop_left' length]
  have long : declared.toNat ≤ reads.flatten.length := by
    rw [stream, List.length_append, length]
    exact Nat.le_add_right ..
  rw [← behind]
  refine read_of_long stream least ?_ (front ▸ parse_octets fields least extra)
  rwa [stream] at long

/-- A written banner that is cut off is not read. -/
theorem read_take_octets (fields : Fields) {extra : Octets} {room : Nat}
    (filled : 24 + extra.length = declared.toNat) (short : room < declared.toNat)
    (stream : reads.flatten = (fields.octets declared extra).take room) :
    read reads = .error earlyEnd := by
  have least : 24 ≤ declared.toNat := filled ▸ Nat.le_add_right 24 extra.length
  have cutOff : reads.flatten.length ≤ room := by
    rw [stream]
    exact List.length_take_le ..
  -- The declared length itself may be cut off.
  by_cases few : room < 2
  · exact read_of_few (Nat.lt_of_le_of_lt cutOff few)
  · obtain ⟨room, rfl⟩ := Nat.exists_eq_add_of_le' (Nat.le_of_not_lt few)
    exact read_of_short stream least
      (Nat.lt_of_le_of_lt (Nat.add_le_add_right (List.length_take_le ..) 2) short)

end

section

open Conversation

variable {framer : Framer} {limit : Nat} {reads others : List Octets} {banner : Banner}

/-- A socket whose banner was read sends what is framed behind it. -/
theorem converse_of_read (taken : read reads = .ok (banner, others)) {images : List Octets}
    {defect : Option FramingDefect} (framed : framer (.images limit) others = (images, defect))
    (ending : SocketEnd) :
    converse framer limit reads ending =
      .ok (banner, images.map .data ++ (ended? limit defect ending).toList) := by
  have begun : readBanner reads ending = .ok (banner, others) := by rw [readBanner, taken]
  have rest : events framer limit others ending =
      images.map .data ++ (ended? limit defect ending).toList := by simp only [events, framed]
  rw [converse, begun, ← rest]
  rfl

/-- A socket that is closed ends its stream once. -/
theorem ended?_closed (limit : Nat) (defect : Option FramingDefect) :
    ∃ reason, ended? limit defect .closed = some (.ended reason) := by
  rcases defect with _ | _ | _ <;> exact ⟨_, rfl⟩

end

/-- Let a codec delimit the images by their lengths, and let a framer run the codec over its reads.
Then a banner and the images behind it are read as they were written, in whatever reads they come. A
stream that is cut off gives its whole images, a length above the limit ends the images in front of
it, and a declared length below the least size is a fault. -/
theorem read_images {limit : Nat} {codec : Codec}
    (delimits : codec.Delimits (.images limit)) {framer : Framer}
    (framed : ∀ reads, codec.Frames reads (framer (.images limit) reads)) (fields : Fields)
    {declared : UInt8} {extra : Octets} (filled : 24 + extra.length = declared.toNat)
    {images : List Octets}
    (fit : ∀ image ∈ images, image.length ≤ limit ∧ image.length < 4294967296) :
    let stream := fields.octets declared extra ++ images.flatMap written
    fields.banner.orientation.toNat = 90 * fields.turns.toNat ∧
      (∀ reads, reads.flatten = stream →
        (∃ others, read reads = .ok (fields.banner, others) ∧
          others.flatten = stream.drop declared.toNat ∧
          framer (.images limit) others = (images, none)) ∧
        Conversation.converse framer limit reads .closed =
          .ok (fields.banner, images.map .data ++ [.ended none])) ∧
      (∀ reads room, reads.flatten = stream.take room →
        if room < declared.toNat then read reads = .error earlyEnd
        else
          let whole := wholeImages (room - declared.toNat) images
          (∃ others, read reads = .ok (fields.banner, others) ∧
            (framer (.images limit) others).1 = whole) ∧
          ∃ reason, Conversation.converse framer limit reads .closed =
            .ok (fields.banner, whole.map .data ++ [.ended reason])) ∧
      (∀ reads size behind, limit < size → size < 4294967296 →
        reads.flatten = stream ++ (Octets.littleEndian 4 size ++ behind) →
        (∃ others, read reads = .ok (fields.banner, others) ∧
          framer (.images limit) others = (images, some .tooLarge)) ∧
        ∀ ending, Conversation.converse framer limit reads ending =
          .ok (fields.banner, images.map .data ++
            [.ended (some (Fault.grabber (.frameTooLarge limit)).message)])) ∧
      ∀ reads few behind, few.toNat < 24 → reads.flatten = fields.version :: few :: behind →
        read reads = .error (.grabber (.invalidBanner .declaredLength)) := by
  intro stream
  have length : (fields.octets declared extra).length = declared.toNat := by
    rw [Fields.length_octets, filled]
  refine ⟨fields.toNat_orientation, ?whole, ?cut, ?large, ?small⟩
  case whole =>
    intro reads divided
    obtain ⟨others, taken, behind⟩ := read_octets fields filled divided
    obtain ⟨given, -, clean⟩ := Codec.Frames.result_eq delimits (framed others) fit
      (.inl Delimiting.open_nil) (behind.trans (List.append_nil _).symm)
    have result : framer (.images limit) others = (images, none) := Prod.ext given (clean rfl)
    exact ⟨⟨others, taken, behind.trans (List.drop_left' length).symm, result⟩,
      converse_of_read taken result .closed⟩
  case cut =>
    intro reads room divided
    rw [List.take_append, length] at divided
    split
    case isTrue short =>
      rw [Nat.sub_eq_zero_of_le (Nat.le_of_lt short), List.take_zero, List.append_nil] at divided
      exact read_take_octets fields filled short divided
    case isFalse long =>
      rw [List.take_of_length_le (length ▸ Nat.le_of_not_lt long)] at divided
      obtain ⟨others, taken, behind⟩ := read_octets fields filled divided
      obtain ⟨tail, cutOff, isOpen⟩ := take_flatMap_written fit (room - declared.toNat)
      have few : ∀ image ∈ wholeImages (room - declared.toNat) images,
          (Delimiting.images limit).Fits image.length :=
        fun image member => fit image (wholeImages_subset _ _ member)
      obtain ⟨given, -⟩ := Codec.Frames.result_eq delimits (framed others) few (.inl isOpen)
        (behind.trans cutOff)
      obtain ⟨reason, ended⟩ := ended?_closed limit (framer (.images limit) others).2
      refine ⟨⟨others, taken, given⟩, reason, ?_⟩
      rw [converse_of_read taken rfl, given, ended]
      rfl
  case large =>
    intro reads size behind large small divided
    rw [List.append_assoc] at divided
    obtain ⟨others, taken, left⟩ := read_octets fields filled divided
    have oversized : (Delimiting.images limit).Oversized (Octets.littleEndian 4 size ++ behind) :=
      ⟨size, behind, large, small, rfl⟩
    obtain ⟨given, refused, -⟩ := Codec.Frames.result_eq delimits (framed others) fit
      (.inr oversized) left
    have result : framer (.images limit) others = (images, some .tooLarge) :=
      Prod.ext given (refused oversized)
    exact ⟨⟨others, taken, result⟩, converse_of_read taken result⟩
  case small =>
    intro reads few behind small divided
    exact read_of_small divided small

/-- The octets of a banner with one more octet and of two images are read one at a time. -/
theorem read_images_single :
    let fields : Fields := ⟨1, 12345, 1080, 1920, 720, 1280, 1, 6⟩
    let stream := fields.octets 25 [255] ++ [[], [7, 8]].flatMap written
    Conversation.converse Framing.framer 2 (stream.map fun octet => [octet]) .closed =
      .ok (fields.banner, [.data [], .data [7, 8], .ended none]) := by
  intro fields stream
  have fit : ∀ image ∈ ([[], [7, 8]] : List Octets),
      image.length ≤ 2 ∧ image.length < 4294967296 := by decide
  have filled : 24 + ([255] : Octets).length = (25 : UInt8).toNat := rfl
  exact ((read_images (Framing.delimits_codec (.images 2)) (Framing.frames_framer (.images 2))
    fields filled fit).2.1 (stream.map fun octet => [octet]) (by decide)).2

end Screencast.Grabber.Banner
