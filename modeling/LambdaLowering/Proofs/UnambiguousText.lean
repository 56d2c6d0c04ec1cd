import LambdaLowering.DeserializationHook
import LambdaLowering.Proofs.DescriptorText
import Mathlib.Data.List.Basic
import Mathlib.Data.Nat.Bitwise

/-! Texts that belong to one descriptor alone.

A class name that nobody has checked may hold the very characters by which a descriptor text is
taken apart, and then different descriptors share a text. For that the text needs such characters to
spare. If it has one closing parenthesis, and one semicolon at most on either side of it, it is the
text of no other descriptor, however that one was made. The hook is told by a text of this kind.
-/

set_option autoImplicit false

namespace LambdaLowering

namespace Primitive

theorem code_inj {first second : Primitive} : first.code = second.code ↔ first = second := by
  constructor
  · intro same
    simpa using congrArg ofCode? same
  · exact congrArg code

theorem code_ne (p : Primitive) : p.code ≠ 'L' ∧ p.code ≠ '[' := by
  cases p <;> decide

end Primitive

/-! ## Types side by side -/

namespace FieldType

/-- With one semicolon at most to come, the text tells where the first type ends. -/
theorem eq_of_toChars_append_eq {first second : FieldType} {rest others : List Char}
    (same : first.toChars ++ rest = second.toChars ++ others)
    (few : (first.toChars ++ rest).count ';' ≤ 1) : first = second ∧ rest = others := by
  induction first generalizing second with
  | primitive p =>
    cases second with
    | primitive q =>
      obtain ⟨codes, rests⟩ := List.cons.inj same
      exact ⟨congrArg primitive (Primitive.code_inj.mp codes), rests⟩
    | object other => exact absurd (List.cons.inj same).1 p.code_ne.1
    | array other => exact absurd (List.cons.inj same).1 p.code_ne.2
  | object name =>
    cases second with
    | primitive q => exact absurd (List.cons.inj same).1.symm q.code_ne.1
    | object other =>
      have inner : name.toList ++ ';' :: rest = other.toList ++ ';' :: others := by
        simpa [toChars] using same
      -- The one semicolon ends the name, so there is none in the name and none after it.
      have spare : name.toList.count ';' = 0 ∧ rest.count ';' = 0 := by
        simp [toChars] at few
        omega
      obtain ⟨names, _, rests⟩ := (List.append_cons_inj_of_notMem
        (List.count_eq_zero.mp spare.1) (List.count_eq_zero.mp spare.2)).mp inner
      exact ⟨congrArg object (String.toList_inj.mp names), rests⟩
    | array other => cases (List.cons.inj same).1
  | array component ih =>
    cases second with
    | primitive q => exact absurd (List.cons.inj same).1.symm q.code_ne.2
    | object other => cases (List.cons.inj same).1
    | array other =>
      have fewer : (component.toChars ++ rest).count ';' ≤ 1 := by
        rwa [toChars, List.cons_append, List.count_cons_of_ne (by decide)] at few
      obtain ⟨components, rests⟩ := ih (List.cons.inj same).2 fewer
      exact ⟨congrArg array components, rests⟩

theorem eq_of_flatMap_toChars_eq {types others : List FieldType}
    (same : types.flatMap toChars = others.flatMap toChars)
    (few : (types.flatMap toChars).count ';' ≤ 1) : types = others := by
  induction types generalizing others with
  | nil =>
    cases others with
    | nil => rfl
    | cons other others =>
      obtain ⟨first, following, head, _⟩ := other.toChars_head
      simp [head] at same
  | cons type types ih =>
    cases others with
    | nil =>
      obtain ⟨first, following, head, _⟩ := type.toChars_head
      simp [head] at same
    | cons other others =>
      rw [List.flatMap_cons] at few
      obtain ⟨types, rests⟩ := eq_of_toChars_append_eq same few
      rw [List.count_append] at few
      rw [types, ih rests (Nat.le_of_add_left_le few)]

end FieldType

theorem ReturnType.eq_of_toChars_eq {first second : ReturnType}
    (same : first.toChars = second.toChars) (few : first.toChars.count ';' ≤ 1) :
    first = second := by
  cases first with
  | void =>
    cases second with
    | void => rfl
    | value type =>
      obtain ⟨letter, following, head, _, notV⟩ := type.toChars_head
      rw [toChars, toChars, head] at same
      exact absurd (List.cons.inj same).1.symm notV
  | value type =>
    cases second with
    | void =>
      obtain ⟨letter, following, head, _, notV⟩ := type.toChars_head
      rw [toChars, toChars, head] at same
      exact absurd (List.cons.inj same).1 notV
    | value other =>
      have whole : type.toChars ++ [] = other.toChars ++ [] := congrArg (· ++ []) same
      have fewer : (type.toChars ++ []).count ';' ≤ 1 := by rwa [List.append_nil]
      exact congrArg value (FieldType.eq_of_toChars_append_eq whole fewer).1

/-! ## Descriptors -/

namespace MethodDescriptor

/-- The text has no character to spare by which it could be taken apart in another way. -/
structure SparinglySpelled (descriptor : MethodDescriptor) : Prop where
  closing : descriptor.toChars.count ')' = 1
  params : (descriptor.params.flatMap FieldType.toChars).count ';' ≤ 1
  result : descriptor.result.toChars.count ';' ≤ 1

/-- No other descriptor has this text, whatever class names it holds. -/
theorem SparinglySpelled.eq_of_text_eq {descriptor other : MethodDescriptor}
    (sparing : descriptor.SparinglySpelled) (same : descriptor.text = other.text) :
    descriptor = other := by
  have inner : descriptor.params.flatMap FieldType.toChars ++ ')' :: descriptor.result.toChars =
      other.params.flatMap FieldType.toChars ++ ')' :: other.result.toChars :=
    (List.cons.inj (String.ofList_inj.mp same)).2
  -- The other descriptor has a parenthesis between its two parts as well, and it is the same one.
  have spare : (descriptor.params.flatMap FieldType.toChars).count ')' = 0 ∧
      descriptor.result.toChars.count ')' = 0 := by
    have closing := sparing.closing
    simp only [toChars, List.count_cons_of_ne (by decide : '(' ≠ ')'), List.count_append,
      List.count_cons_self] at closing
    omega
  obtain ⟨params, _, results⟩ := (List.append_cons_inj_of_notMem
    (List.count_eq_zero.mp spare.1) (List.count_eq_zero.mp spare.2)).mp inner
  obtain ⟨_, _⟩ := descriptor
  obtain ⟨_, _⟩ := other
  congr 1
  · exact FieldType.eq_of_flatMap_toChars_eq params sparing.params
  · exact ReturnType.eq_of_toChars_eq results sparing.result

end MethodDescriptor

/-! ## The deserialization hook -/

theorem AccessFlags.has_iff {access : AccessFlags} {flag : AccessFlag} :
    access.has flag = true ↔ access.bits &&& flag.mask ≠ 0 := by
  have single : flag.mask.toNat = 2 ^ flag.mask.toNat.log2 := by
    cases flag <;> rfl
  have common : (access.bits &&& flag.mask).toNat =
      (access.bits.toNat.testBit flag.mask.toNat.log2).toNat * flag.mask.toNat := by
    rw [UInt16.toNat_and]
    nth_rewrite 1 [single]
    rw [Nat.and_two_pow, ← single]
  have positive : 0 < flag.mask.toNat := by
    rw [single]
    exact Nat.two_pow_pos _
  rw [has, contains, beq_iff_eq, ← UInt16.toNat_inj, Ne, ← UInt16.toNat_inj, common]
  cases access.bits.toNat.testBit flag.mask.toNat.log2
  · simp
    omega
  · simp
    omega

namespace DeserializationHook

def descriptor : MethodDescriptor :=
  ⟨[.object "java/lang/invoke/SerializedLambda"], .value (.object "java/lang/Object")⟩

theorem text_descriptor : descriptor.text = descriptorText := by
  decide

theorem sparinglySpelled_descriptor : descriptor.SparinglySpelled := by
  constructor <;> decide

theorem parse_descriptorText : MethodDescriptor.parse descriptorText = .ok descriptor := by
  cbv

theorem text_eq_descriptorText_iff {other : MethodDescriptor} :
    other.text = descriptorText ↔ MethodDescriptor.parse descriptorText = .ok other := by
  rw [parse_descriptorText, Except.ok.injEq]
  constructor
  · intro same
    exact sparinglySpelled_descriptor.eq_of_text_eq (text_descriptor.trans same.symm)
  · rintro rfl
    exact text_descriptor

end DeserializationHook

/-- A method is the hook just if it has the name of the hook, is made by a compiler, and has the
descriptor that is read from the descriptor text of the hook. That descriptor is compared as text is
no matter: it shares its text with no other one, although there are descriptors that do. -/
theorem isDeserializationHook_iff :
    (∀ header : MethodHeader, header.isDeserializationHook = true ↔
      header.name = "$deserializeLambda$" ∧ header.access.bits &&& 0x1000 ≠ 0 ∧
        MethodDescriptor.parse "(Ljava/lang/invoke/SerializedLambda;)Ljava/lang/Object;" =
          .ok header.descriptor) ∧
    (∀ descriptor : MethodDescriptor,
      descriptor.text = "(Ljava/lang/invoke/SerializedLambda;)Ljava/lang/Object;" ↔
        MethodDescriptor.parse "(Ljava/lang/invoke/SerializedLambda;)Ljava/lang/Object;" =
          .ok descriptor) ∧
    ∃ first second : MethodDescriptor, first ≠ second ∧ first.text = second.text := by
  refine ⟨?_, ?_, ⟨[.object "A;LB"], .void⟩, ⟨[.object "A", .object "B"], .void⟩, by decide,
    by decide⟩
  · intro header
    rw [MethodHeader.isDeserializationHook, Bool.and_eq_true, Bool.and_eq_true, beq_iff_eq,
      beq_iff_eq, AccessFlags.has_iff, DeserializationHook.text_eq_descriptorText_iff, and_assoc]
    rfl
  · intro descriptor
    exact DeserializationHook.text_eq_descriptorText_iff

end LambdaLowering
