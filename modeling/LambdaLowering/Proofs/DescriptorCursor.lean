import LambdaLowering.Proofs.FaultOffsets
import Mathlib.Data.String.Basic
import Mathlib.Logic.Relation

/-! Reading a descriptor text with a cursor over its bytes.

The readers of descriptors take characters off a list. Here the same is done in small steps over the
UTF-8 form: the cursor looks at the byte under it and moves on, and class names are cut out of the
text. Nothing in a step keeps the cursor inside the text or off the middle of a character, where a
cut would go wrong.
-/

set_option autoImplicit false

namespace LambdaLowering

namespace DescriptorCursor

/-! ## Bytes and cuts -/

def byteAt (text : String) (position : Nat) : Option UInt8 := (utf8Bytes text)[position]?

def looksAt (text : String) (position : Nat) (c : Char) : Bool :=
  byteAt text position == some c.toUInt8

/-- The position lies between two characters, or at either end of the text. -/
def IsBoundary (text : String) (position : Nat) : Prop := String.Pos.Raw.IsValid text ⟨position⟩

instance (text : String) (position : Nat) : Decidable (IsBoundary text position) :=
  inferInstanceAs (Decidable (String.Pos.Raw.IsValid text ⟨position⟩))

/-- The text between two positions, unless they are in the wrong order or cut a character. -/
def cut? (text : String) (start stop : Nat) : Option String :=
  if start ≤ stop ∧ IsBoundary text start ∧ IsBoundary text stop then
    some (String.Pos.Raw.extract text ⟨start⟩ ⟨stop⟩)
  else none

/-! ## Steps -/

inductive Value where
  | type (type : FieldType)
  | method (descriptor : MethodDescriptor)
  deriving DecidableEq, Repr

inductive Use where
  | whole
  | param (earlier : List FieldType)
  | result (params : List FieldType)
  deriving DecidableEq, Repr

inductive Point where
  | opening
  /-- The head of the loop over the parameters, with those that have been read. -/
  | params (read : List FieldType)
  | closing (params : List FieldType)
  | result (params : List FieldType)
  /-- The head of the loop over array brackets, with the number of those that have been passed. -/
  | brackets (use : Use) (count : Nat)
  | base (use : Use) (count : Nat)
  /-- The rest of the text is cut off, to look for the end of a class name. -/
  | name (use : Use) (count : Nat)
  /-- A class name of so many bytes is cut out. -/
  | nameEnd (use : Use) (count : Nat) (length : Nat)
  | ending (value : Value)
  deriving DecidableEq, Repr

structure State where
  position : Nat
  point : Point
  deriving DecidableEq, Repr

inductive Outcome where
  | goesOn (next : State)
  | stops (position : Nat) (answer : Except String Value)
  | panics

def Use.next : Use → FieldType → Point
  | .whole, type => .ending (.type type)
  | .param earlier, type => .params (earlier ++ [type])
  | .result params, type => .ending (.method ⟨params, .value type⟩)

def refuse (text : String) (position : Nat) (fault : DescriptorFault) : Outcome :=
  .stops position (.error (DescriptorError.message ⟨text, fault⟩))

def step (text : String) : State → Outcome
  | ⟨position, .opening⟩ =>
    match byteAt text position with
    | none => refuse text position .truncated
    | some byte =>
      if byte == '('.toUInt8 then .goesOn ⟨position + 1, .params []⟩
      else refuse text (position + 1) .noParameterList
  | ⟨position, .params read⟩ =>
    if looksAt text position ')' then .goesOn ⟨position, .closing read⟩
    else .goesOn ⟨position, .brackets (.param read) 0⟩
  | ⟨position, .closing params⟩ => .goesOn ⟨position + 1, .result params⟩
  | ⟨position, .result params⟩ =>
    if looksAt text position 'V' then .goesOn ⟨position + 1, .ending (.method ⟨params, .void⟩)⟩
    else .goesOn ⟨position, .brackets (.result params) 0⟩
  | ⟨position, .brackets use count⟩ =>
    if looksAt text position '[' then .goesOn ⟨position + 1, .brackets use (count + 1)⟩
    else if count > Descriptor.maxDimensions then refuse text position (.tooManyDimensions count)
    else .goesOn ⟨position, .base use count⟩
  | ⟨position, .base use count⟩ =>
    match byteAt text position with
    | none => refuse text position .truncated
    | some byte =>
      if byte == 'L'.toUInt8 then .goesOn ⟨position + 1, .name use count⟩
      else
        let shown := Char.ofNat byte.toNat
        match Primitive.ofCode? shown with
        | some p => .goesOn ⟨position + 1, use.next (.arrayOf count (.primitive p))⟩
        | none =>
          .stops (position + 1)
            (.error s!"Unexpected '{shown}' at offset {position} of descriptor '{text}'")
  | ⟨position, .name use count⟩ =>
    match cut? text position text.utf8ByteSize with
    | none => .panics
    | some rest =>
      match (utf8Bytes rest).findIdx? (· == ';'.toUInt8) with
      | none => refuse text position .unterminatedName
      | some length => .goesOn ⟨position, .nameEnd use count length⟩
  | ⟨position, .nameEnd use count length⟩ =>
    match cut? text position (position + length) with
    | none => .panics
    | some name =>
      if Descriptor.isValidName name.toList then
        .goesOn ⟨position + (length + 1), use.next (.arrayOf count (.object name))⟩
      else refuse text position (.invalidName name)
  | ⟨position, .ending value⟩ =>
    if position == text.utf8ByteSize then .stops position (.ok value)
    else
      .stops position (.error s!"Trailing characters in descriptor '{text}' at offset {position}")

/-! ## Bytes of characters -/

theorem utf8EncodeChar_of_ascii {c : Char} (ascii : c.val.toNat ≤ 127) :
    String.utf8EncodeChar c = [c.toUInt8] := by
  rw [String.utf8EncodeChar, if_pos ascii]
  rfl

theorem toNat_toUInt8 {c : Char} (ascii : c.val.toNat ≤ 127) : c.toUInt8.toNat = c.val.toNat := by
  have number : c.toUInt8.toNat = c.val.toNat % 2 ^ 8 := UInt32.toNat_toUInt8 c.val
  omega

theorem le_of_mem_utf8EncodeChar {c : Char} (wide : ¬ c.val.toNat ≤ 127) {byte : UInt8}
    (part : byte ∈ String.utf8EncodeChar c) : 128 ≤ byte.toNat := by
  simp only [String.utf8EncodeChar, if_neg wide] at part
  split at part
  · simp only [List.mem_cons, List.not_mem_nil, or_false] at part
    rcases part with rfl | rfl <;> simp only [UInt8.toNat_ofNat'] <;> omega
  · split at part
    · simp only [List.mem_cons, List.not_mem_nil, or_false] at part
      rcases part with rfl | rfl | rfl <;> simp only [UInt8.toNat_ofNat'] <;> omega
    · simp only [List.mem_cons, List.not_mem_nil, or_false] at part
      rcases part with rfl | rfl | rfl | rfl <;> simp only [UInt8.toNat_ofNat'] <;> omega

theorem head?_eq_toUInt8_iff {c d : Char} (ascii : d.val.toNat ≤ 127) :
    (String.utf8EncodeChar c).head? = some d.toUInt8 ↔ c = d := by
  constructor
  · intro starts
    have same : Descriptor.SameLead c d := by
      rw [Descriptor.SameLead, starts, utf8EncodeChar_of_ascii ascii, List.head?_cons]
    exact same.eq_of_ascii ascii
  · rintro rfl
    rw [utf8EncodeChar_of_ascii ascii, List.head?_cons]

theorem toUInt8_mem_iff {c d : Char} (ascii : d.val.toNat ≤ 127) :
    d.toUInt8 ∈ String.utf8EncodeChar c ↔ c = d := by
  constructor
  · intro part
    -- The longer forms have no byte below 128.
    by_cases narrow : c.val.toNat ≤ 127
    · rw [← head?_eq_toUInt8_iff ascii, utf8EncodeChar_of_ascii narrow] at *
      rw [List.mem_singleton.mp part, List.head?_cons]
    · have large := le_of_mem_utf8EncodeChar narrow part
      have small := toNat_toUInt8 ascii
      omega
  · rintro rfl
    rw [utf8EncodeChar_of_ascii ascii]
    exact List.mem_singleton_self _

theorem leadByte_eq_iff {c d : Char} (ascii : d.val.toNat ≤ 127) :
    DescriptorError.leadByte c = d ↔ c = d := by
  obtain ⟨lead, others, spelled⟩ := Descriptor.exists_lead c
  have shown : DescriptorError.leadByte c = Char.ofNat lead.toNat := by
    rw [DescriptorError.leadByte, spelled, List.headD_cons]
  have number : (Char.ofNat lead.toNat).val.toNat = lead.toNat := by
    have scalar : lead.toNat.isValidChar := .inl (by have := lead.toNat_lt; omega)
    rw [Char.ofNat, dif_pos scalar]
    exact UInt32.toNat_ofNatLT
  constructor
  · intro same
    rw [← head?_eq_toUInt8_iff ascii, spelled, List.head?_cons, Option.some.injEq,
      ← UInt8.toNat_inj, toNat_toUInt8 ascii, ← number, ← shown, same]
  · rintro rfl
    have starts := (head?_eq_toUInt8_iff ascii).mpr rfl
    rw [spelled, List.head?_cons, Option.some.injEq, ← UInt8.toNat_inj, toNat_toUInt8 ascii,
      ← number, UInt32.toNat_inj] at starts
    exact shown.trans (Char.ext starts)

theorem ofCode?_leadByte (c : Char) :
    Primitive.ofCode? (DescriptorError.leadByte c) = Primitive.ofCode? c := by
  -- The letters of primitives are ASCII, and there a character is its own first byte.
  have same : ∀ p : Primitive, DescriptorError.leadByte c = p.code ↔ c = p.code := by
    intro p
    exact leadByte_eq_iff (by cases p <;> decide)
  apply Option.ext
  intro p
  constructor
  · intro found
    rw [(same p).mp (Descriptor.ofCode?_sound found), Primitive.ofCode?_code]
  · intro found
    rw [(same p).mpr (Descriptor.ofCode?_sound found), Primitive.ofCode?_code]

theorem beq_toUInt8_iff {c d : Char} {lead : UInt8}
    (leads : (String.utf8EncodeChar c).head? = some lead) (ascii : d.val.toNat ≤ 127) :
    (lead == d.toUInt8) = true ↔ c = d := by
  rw [beq_iff_eq, ← head?_eq_toUInt8_iff ascii, leads, Option.some.injEq]

theorem ofNat_eq_leadByte {c : Char} {lead : UInt8}
    (leads : (String.utf8EncodeChar c).head? = some lead) :
    Char.ofNat lead.toNat = DescriptorError.leadByte c := by
  rw [DescriptorError.leadByte, List.headD_eq_head?_getD, leads, Option.getD_some]

theorem length_flatMap_utf8EncodeChar (chars : List Char) :
    (chars.flatMap String.utf8EncodeChar).length = String.utf8Len chars := by
  rw [← utf8Bytes_ofList, ← utf8ByteSize_eq_length, String.utf8ByteSize_ofList]

theorem findIdx?_eq_none {chars : List Char} {stop : Char} (ascii : stop.val.toNat ≤ 127)
    (missing : stop ∉ chars) :
    (chars.flatMap String.utf8EncodeChar).findIdx? (· == stop.toUInt8) = none := by
  rw [List.findIdx?_eq_none_iff]
  intro byte member
  obtain ⟨c, inside, part⟩ := List.mem_flatMap.mp member
  rw [beq_eq_false_iff_ne]
  rintro rfl
  exact missing ((toUInt8_mem_iff ascii).mp part ▸ inside)

theorem findIdx?_eq_some {before after : List Char} {stop : Char} (ascii : stop.val.toNat ≤ 127)
    (missing : stop ∉ before) :
    ((before ++ stop :: after).flatMap String.utf8EncodeChar).findIdx? (· == stop.toUInt8) =
      some (String.utf8Len before) := by
  rw [List.flatMap_append, List.findIdx?_append, findIdx?_eq_none ascii missing,
    List.flatMap_cons, utf8EncodeChar_of_ascii ascii, List.singleton_append, List.findIdx?_cons,
    beq_self_eq_true, if_pos rfl, Option.none_or, Option.map_some, Nat.zero_add,
    length_flatMap_utf8EncodeChar]

/-! ## Places in the text -/

def UnreadAt (text : String) (position : Nat) (unread : List Char) : Prop :=
  ∃ before, text.toList = before ++ unread ∧ position = String.utf8Len before

namespace UnreadAt

variable {text : String} {position : Nat} {unread word : List Char} {c : Char}

theorem start (text : String) : UnreadAt text 0 text.toList :=
  ⟨[], rfl, rfl⟩

theorem utf8ByteSize_eq (place : UnreadAt text position unread) :
    text.utf8ByteSize = position + String.utf8Len unread := by
  obtain ⟨before, whole, rfl⟩ := place
  rw [← String.utf8Len_toList, whole, String.utf8Len_append]

theorem position_le (place : UnreadAt text position unread) : position ≤ text.utf8ByteSize := by
  rw [place.utf8ByteSize_eq]
  exact Nat.le_add_right _ _

theorem lt_of_cons (place : UnreadAt text position (c :: unread)) :
    position < text.utf8ByteSize := by
  have size := place.utf8ByteSize_eq
  have wide := c.utf8Size_pos
  rw [String.utf8Len_cons] at size
  omega

theorem append (place : UnreadAt text position (word ++ unread)) :
    UnreadAt text (position + String.utf8Len word) unread := by
  obtain ⟨before, whole, rfl⟩ := place
  exact ⟨before ++ word, by rw [whole, List.append_assoc], (String.utf8Len_append _ _).symm⟩

theorem cons (place : UnreadAt text position (c :: unread)) (ascii : c.val.toNat ≤ 127) :
    UnreadAt text (position + 1) unread := by
  have size : String.utf8Len [c] = 1 := by
    rw [← length_flatMap_utf8EncodeChar, List.flatMap_singleton, utf8EncodeChar_of_ascii ascii,
      List.length_singleton]
  rw [← size]
  exact UnreadAt.append place

theorem isBoundary (place : UnreadAt text position unread) : IsBoundary text position := by
  obtain ⟨before, whole, rfl⟩ := place
  refine String.Pos.Raw.isValid_iff_exists_append.mpr
    ⟨String.ofList before, String.ofList unread, ?_, ?_⟩
  · rw [← String.ofList_append, ← whole, String.ofList_toList]
  · exact congrArg String.Pos.Raw.mk (String.utf8ByteSize_ofList before).symm

theorem byteAt_eq (place : UnreadAt text position unread) :
    byteAt text position = (unread.flatMap String.utf8EncodeChar).head? := by
  obtain ⟨before, whole, rfl⟩ := place
  rw [byteAt, utf8Bytes_eq_flatMap, whole, List.flatMap_append, ← length_flatMap_utf8EncodeChar,
    List.getElem?_append_right (Nat.le_refl _), Nat.sub_self, List.head?_eq_getElem?]

theorem byteAt_nil (place : UnreadAt text position []) : byteAt text position = none :=
  place.byteAt_eq

theorem byteAt_cons (place : UnreadAt text position (c :: unread)) :
    ∃ lead, byteAt text position = some lead ∧ (String.utf8EncodeChar c).head? = some lead := by
  obtain ⟨lead, others, spelled⟩ := Descriptor.exists_lead c
  refine ⟨lead, ?_, by rw [spelled, List.head?_cons]⟩
  rw [place.byteAt_eq, List.flatMap_cons, spelled, List.cons_append, List.head?_cons]

theorem looksAt_iff (place : UnreadAt text position unread) (ascii : c.val.toNat ≤ 127) :
    looksAt text position c = true ↔ ∃ tail, unread = c :: tail := by
  cases unread with
  | nil => simp [looksAt, place.byteAt_nil]
  | cons first tail =>
    obtain ⟨lead, byte, leads⟩ := place.byteAt_cons
    have same := beq_toUInt8_iff leads ascii
    simpa [looksAt, byte] using same

theorem cut?_eq (place : UnreadAt text position (word ++ unread)) :
    cut? text position (position + String.utf8Len word) = some (String.ofList word) := by
  have stop := place.append.isBoundary
  rw [cut?, if_pos ⟨Nat.le_add_right _ _, place.isBoundary, stop⟩]
  obtain ⟨before, whole, rfl⟩ := place
  rw [← List.append_assoc] at whole
  rw [← String.extract_of_valid before word unread, ← whole, String.ofList_toList]

/-- The position 3 lies between the two bytes of `é`. -/
example : cut? "(Lé;)V" 2 4 = some "é" ∧ cut? "(Lé;)V" 2 3 = none := by decide

theorem cut?_rest (place : UnreadAt text position unread) :
    cut? text position text.utf8ByteSize = some (String.ofList unread) := by
  rw [← List.append_nil unread] at place
  rw [place.utf8ByteSize_eq, String.utf8Len_append]
  exact place.cut?_eq

/-- The cursor stands where a message about the unread text places it. -/
theorem offset_eq (place : UnreadAt text position unread) (fault : DescriptorFault) :
    DescriptorError.offset ⟨text, fault⟩ unread = position := by
  obtain ⟨before, whole, rfl⟩ := place
  rw [← length_flatMap_utf8EncodeChar]
  exact DescriptorError.offset_eq_length whole

end UnreadAt

end DescriptorCursor

end LambdaLowering
