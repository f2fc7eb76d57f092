/-
This file reads boxes back from their octets, as a player does. A box is as long as its size says,
and the boxes inside it fill it to its end.
-/

import Screencast.Mp4.Box
import Screencast.Proofs.Nal.Samples

namespace Screencast.Mp4.Box

/-- A number stands at an offset in the fields of a box. -/
def number (fields : Octets) (offset width : Nat) : Nat :=
  Octets.ofBigEndian ((fields.drop offset).take width)

def kind : Box → String
  | .box kind _ _ => kind

/-- These are the octets of a box in front of the boxes inside. -/
def fields : Box → Octets
  | .box _ fields _ => fields

def children : Box → List Box
  | .box _ _ children => children

/-- A path names one kind at each level. -/
def fieldsAt? : List String → List Box → Option Octets
  | [], _ => none
  | kind :: inside, boxes =>
      (boxes.find? fun box => box.kind = kind).bind fun box =>
        if inside.isEmpty then some box.fields else fieldsAt? inside box.children

/-- Four octets spell a kind. -/
def kindOf (octets : Octets) : String :=
  String.ofList (octets.map fun octet => Char.ofNat octet.toNat)

/-- The kind says how many octets stand before the boxes inside. A kind that is not in the table
has no boxes inside, so all its octets are fields. -/
def fieldsLength (kind : String) (available : Nat) : Nat :=
  match kind with
  | "moov" | "trak" | "mdia" | "minf" | "dinf" | "stbl" | "mvex" | "moof" | "traf" => 0
  | "dref" | "stsd" => 8
  | "avc1" => 78
  | _ => available

/-- This reads boxes up to the end of the octets and leaves no octet over. -/
def readAll (octets : Octets) : Option (List Box) :=
  if octets.isEmpty then some []
  else
    let size := Octets.ofBigEndian (octets.take 4)
    let kind := kindOf ((octets.drop 4).take 4)
    let width := fieldsLength kind (size - 8)
    if 8 + width ≤ size ∧ size ≤ octets.length then do
      let children ← readAll ((octets.take size).drop (8 + width))
      let rest ← readAll (octets.drop size)
      return .box kind (((octets.take size).drop 8).take width) children :: rest
    else none
termination_by octets.length
decreasing_by
  all_goals simp only [List.length_drop, List.length_take]; omega

/-- The four letters of the kind come back, and the fields are as long as the kind says. -/
inductive Readable : Box → Prop
  | box {kind : String} {fields : Octets} {children : List Box}
      (letters : (Octets.ascii kind).length = 4) (spelled : kindOf (Octets.ascii kind) = kind)
      (width : fieldsLength kind (fields ++ octetsOfAll children).length = fields.length)
      (inside : ∀ child ∈ children, Readable child) : Readable (.box kind fields children)

theorem length_octets {kind : String} (fields : Octets) (children : List Box)
    (letters : (Octets.ascii kind).length = 4) :
    (octets (.box kind fields children)).length =
      8 + (fields.length + (octetsOfAll children).length) := by
  simp only [octets, List.length_append, Octets.length_bigEndian, letters]

/-- The size of a box stands in front. -/
theorem size_octets_append {kind : String} {fields : Octets} {children : List Box}
    (letters : (Octets.ascii kind).length = 4)
    (small : (octets (.box kind fields children)).length < 4294967296) (rest : Octets) :
    Octets.ofBigEndian ((octets (.box kind fields children) ++ rest).take 4) =
      (octets (.box kind fields children)).length := by
  have long : (octets (.box kind fields children)).length =
      8 + (fields ++ octetsOfAll children).length := by
    rw [length_octets fields children letters, List.length_append]
  rw [long] at small ⊢
  rw [octets, List.append_assoc, List.append_assoc, Octets.take_bigEndian,
    Octets.ofBigEndian_of_lt small]

theorem length_le_octetsOfAll {box : Box} {boxes : List Box} (member : box ∈ boxes) :
    box.octets.length ≤ (octetsOfAll boxes).length := by
  induction boxes with
  | nil => cases member
  | cons first rest inductionHypothesis =>
      rw [octetsOfAll, List.length_append]
      rcases List.mem_cons.mp member with same | later
      · rw [same]
        omega
      · have bound := inductionHypothesis later
        omega

/-- A box in front of others is read by its size, and its body by itself. -/
theorem readAll_box {kind : String} {fields : Octets} {children : List Box}
    (letters : (Octets.ascii kind).length = 4) (spelled : kindOf (Octets.ascii kind) = kind)
    (width : fieldsLength kind (fields ++ octetsOfAll children).length = fields.length)
    (small : (octets (.box kind fields children)).length < 4294967296) (rest : Octets) :
    readAll (octets (.box kind fields children) ++ rest) = do
      let children ← readAll (octetsOfAll children)
      let rest ← readAll rest
      return .box kind fields children :: rest := by
  have long := length_octets fields children letters
  have size := size_octets_append letters small rest
  generalize shape : octets (.box kind fields children) = whole at size long ⊢
  have spread : whole = Octets.bigEndian 4 whole.length ++
      (Octets.ascii kind ++ (fields ++ octetsOfAll children)) := by
    rw [long, ← shape, octets, List.length_append, List.append_assoc]
  have name : kindOf (((whole ++ rest).drop 4).take 4) = kind := by
    rw [spread, List.append_assoc, Octets.drop_bigEndian, List.append_assoc, List.take_left' letters,
      spelled]
  have own : (whole ++ rest).take whole.length = whole := List.take_left
  have body : whole.drop 8 = fields ++ octetsOfAll children := by
    rw [spread, ← List.append_assoc]
    apply List.drop_left'
    rw [List.length_append, Octets.length_bigEndian, letters]
  have inner : whole.drop (8 + fields.length) = octetsOfAll children := by
    rw [← List.drop_drop, body, List.drop_left]
  have available : whole.length - 8 = (fields ++ octetsOfAll children).length := by
    rw [List.length_append]
    omega
  have filled : (whole ++ rest).isEmpty = false := by
    rw [List.isEmpty_eq_false_iff, ← List.length_pos_iff, List.length_append]
    omega
  have present : 8 + fields.length ≤ whole.length ∧ whole.length ≤ (whole ++ rest).length := by
    rw [List.length_append]
    omega
  rw [readAll, if_neg (by rw [filled]; exact Bool.false_ne_true)]
  simp only [size, name, own, available, width, if_pos present, body, inner, List.take_left,
    List.drop_left]

/-- Boxes come back from what was written. -/
theorem readAll_octetsOfAll {boxes : List Box} (readable : ∀ box ∈ boxes, Readable box)
    (small : ∀ box ∈ boxes, box.octets.length < 4294967296) :
    readAll (octetsOfAll boxes) = some boxes := by
  -- The induction is on the octets, which a body and the boxes behind the first have fewer of.
  induction count : (octetsOfAll boxes).length using Nat.strongRecOn generalizing boxes with
  | _ count inductionHypothesis =>
      cases boxes with
      | nil => rw [octetsOfAll, readAll]; rfl
      | cons first rest =>
          rw [octetsOfAll, List.length_append] at count
          have fits := small first List.mem_cons_self
          cases first with
          | box kind fields children =>
              obtain ⟨letters, spelled, width, inside⟩ := readable _ List.mem_cons_self
              have long := length_octets fields children letters
              have body : readAll (octetsOfAll children) = some children := by
                apply inductionHypothesis (octetsOfAll children).length (by omega) inside _ rfl
                intro child member
                have bound := length_le_octetsOfAll member
                omega
              have others : readAll (octetsOfAll rest) = some rest := by
                apply inductionHypothesis (octetsOfAll rest).length (by omega) _ _ rfl
                · intro box member
                  exact readable box (List.mem_cons_of_mem _ member)
                · intro box member
                  exact small box (List.mem_cons_of_mem _ member)
              rw [octetsOfAll, readAll_box letters spelled width fits, body, others]
              rfl

/-- The box in front is cut off by its size, whatever stands behind it. -/
def readFront (octets : Octets) : Option (List Box) :=
  readAll (octets.take (Octets.ofBigEndian (octets.take 4)))

theorem readFront_octets_append {box : Box} (readable : box.Readable)
    (small : box.octets.length < 4294967296) (rest : Octets) :
    readFront (box.octets ++ rest) = some [box] := by
  have size : Octets.ofBigEndian ((box.octets ++ rest).take 4) = box.octets.length := by
    cases readable with
    | box letters => exact size_octets_append letters small rest
  have whole : box.octets = octetsOfAll [box] := by rw [octetsOfAll, octetsOfAll, List.append_nil]
  rw [readFront, size, List.take_left, whole]
  apply readAll_octetsOfAll
  · exact List.forall_mem_singleton.2 readable
  · exact List.forall_mem_singleton.2 small

/-- A player of MP4 puts the fragments in the order of their numbers. -/
def fragmentNumber? (segment : Octets) : Option Nat := do
  let front ← readFront segment
  let header ← fieldsAt? ["moof", "mfhd"] front
  return number header 4 4

/-- The sample of a fragment is decoded at this time. -/
def fragmentTime? (segment : Octets) : Option Nat := do
  let front ← readFront segment
  let time ← fieldsAt? ["moof", "traf", "tfdt"] front
  return number time 4 8

/-- The boxes are written like this, and they are read back when their sizes fit. -/
structure Spelled (octets : Octets) (boxes : List Box) : Prop where
  written : octets = octetsOfAll boxes
  read : (∀ box ∈ boxes, box.octets.length < 4294967296) → readAll octets = some boxes

/-- A box of a kind that is not in the table is readable when it has no boxes inside. -/
theorem readable_of_leaf {kind : String} {fields : Octets}
    (letters : (Octets.ascii kind).length = 4) (spelled : kindOf (Octets.ascii kind) = kind)
    (plain : ∀ available, fieldsLength kind available = available) :
    Readable (.box kind fields []) := by
  apply Readable.box letters spelled
  · rw [plain, octetsOfAll, List.append_nil]
  · intro child member
    cases member

/-- A box that begins with boxes is readable when these are. -/
theorem readable_of_node {kind : String} {children : List Box}
    (letters : (Octets.ascii kind).length = 4) (spelled : kindOf (Octets.ascii kind) = kind)
    (listed : ∀ available, fieldsLength kind available = 0)
    (inside : ∀ child ∈ children, Readable child) : Readable (.node kind children) :=
  .box letters spelled (listed _) inside

theorem forall_mem_pair {first second : Box} {holds : Box → Prop} (one : holds first)
    (other : holds second) : ∀ box ∈ [first, second], holds box := by
  rw [List.forall_mem_cons, List.forall_mem_singleton]
  exact ⟨one, other⟩

/-- What stands behind a number does not matter to it. -/
theorem number_append_left {front : Octets} {offset width : Nat}
    (inside : offset + width ≤ front.length) (back : Octets) :
    number (front ++ back) offset width = number front offset width := by
  have enough : width ≤ (front.drop offset).length := by
    rw [List.length_drop]
    omega
  rw [number, List.drop_append_of_le_length (by omega), List.take_append_of_le_length enough,
    number]

/-- What stands in front of a number only moves it. -/
theorem number_append_right {front : Octets} {offset width : Nat}
    (behind : front.length ≤ offset) (back : Octets) :
    number (front ++ back) offset width = number back (offset - front.length) width := by
  rw [number, List.drop_append, List.drop_of_length_le behind, List.nil_append, number]

/-- A number that fits its octets is read back. -/
theorem number_bigEndian {width value : Nat} (fits : value < 1 <<< (8 * width)) :
    number (Octets.bigEndian width value) 0 width = value := by
  have whole := List.take_of_length_le (Nat.le_of_eq (Octets.length_bigEndian width value))
  rw [number, List.drop_zero, whole, Octets.ofBigEndian_of_lt fits]

end Screencast.Mp4.Box
