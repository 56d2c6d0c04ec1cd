import LambdaLowering.Proofs.Checks
import LambdaLowering.Proofs.DescriptorText

/-! Descriptors that can be read back from the lowered class.

Descriptors of accessors are put together from parts, and nobody checks the result. If the parts
have been read off texts, and the class names that are put in between can be spelled, the result can
be spelled as well. On such descriptors the text is as good as the value, so methods that differ in
name and descriptor differ in name and text.
-/

set_option autoImplicit false

namespace LambdaLowering

variable {S : Type}

namespace MethodDescriptor

def IsRead (descriptor : MethodDescriptor) : Prop := ∃ text, parse text = .ok descriptor

theorem IsRead.wellFormed {descriptor : MethodDescriptor} (comes : descriptor.IsRead) :
    descriptor.WellFormed := by
  obtain ⟨text, read⟩ := comes
  exact (Descriptor.readMethod_iff.mp (Descriptor.readWhole_eq_ok_iff.mp read)).1

namespace WellFormed

variable {descriptor other : MethodDescriptor}

theorem parse_text (wellFormed : descriptor.WellFormed) :
    parse descriptor.text = .ok descriptor := by
  rw [parse, Descriptor.readWhole_eq_ok_iff, Descriptor.readMethod_iff, List.append_nil]
  exact ⟨wellFormed, String.toList_ofList⟩

theorem eq_of_text_eq (wellFormed : descriptor.WellFormed) (others : other.WellFormed)
    (same : descriptor.text = other.text) : descriptor = other := by
  have read := wellFormed.parse_text
  rw [same, others.parse_text] at read
  exact (Except.ok.inj read).symm

theorem returning (wellFormed : descriptor.WellFormed) {type : FieldType}
    (result : type.WellFormed) : (descriptor.returning type).WellFormed :=
  ⟨wellFormed.params, result⟩

theorem withLeading (wellFormed : descriptor.WellFormed) {type : FieldType}
    (leading : type.WellFormed) : (descriptor.withLeading type).WellFormed :=
  ⟨List.forall_mem_cons.mpr ⟨leading, wellFormed.params⟩, wellFormed.result⟩

end WellFormed

end MethodDescriptor

theorem FieldType.wellFormed_object {name : String} (valid : ClassName.WellFormed name) :
    (object name).WellFormed :=
  ⟨valid, Nat.zero_le _⟩

theorem Accessor.wellFormed_descriptorFor {host : HostClass} {target : MethodRef}
    (named : ClassName.WellFormed host.name) (wellFormed : target.descriptor.WellFormed)
    (owned : target.kind = .constructor → ClassName.WellFormed target.owner) :
    (descriptorFor host target).WellFormed := by
  unfold descriptorFor
  cases kind : target.kind with
  | static => exact wellFormed
  | constructor => exact wellFormed.returning (FieldType.wellFormed_object (owned kind))
  | virtual => exact wellFormed.withLeading (FieldType.wellFormed_object named)
  | special => exact wellFormed.withLeading (FieldType.wellFormed_object named)
  | interface => exact wellFormed.withLeading (FieldType.wellFormed_object named)

/-! ## Headers of the lowered class -/

theorem PendingAccessors.target_mem_of_plannedFor {host : HostClass} {targets : List MethodRef}
    {accessor : Accessor} (planned : accessor ∈ (plannedFor host targets).entries) :
    accessor.target ∈ targets := by
  obtain ⟨number, inside, rfl⟩ := List.mem_mapIdx.mp planned
  exact List.getElem_mem inside

theorem CallSite.exists_implementation?_of_needing {host : HostClass} {declared : Declarations}
    {sites : List CallSite} {target : MethodRef} (needed : target ∈ needing host declared sites) :
    ∃ site ∈ sites, site.implementation? = some target :=
  List.mem_filterMap.mp (List.mem_filter.mp needed).1

/-- A method of the lowered class has the header of one that stays, or it is an accessor for the
implementation of a call site. -/
theorem header_of_lowerClass {config : Config} {services : Services S} {file out : ClassFile}
    {state last : S} (lowered : lowerClass config services file state = .ok out last)
    {method : Method} (member : method ∈ out.methods) :
    method.header ∈ file.kept.map Method.header ∨
      ∃ site ∈ file.lambdaSites config.metafactory, ∃ target,
        site.implementation? = some target ∧
        method.header.descriptor = Accessor.descriptorFor (.ofHeader file.header) target := by
  obtain ⟨record, recorded⟩ := lowerClass_recording_eq config services file state
  rw [lowered, lowerClass_eq_lowerDirectly] at recorded
  obtain ⟨methods, pending, derived, rfl⟩ := MethodsLowered.of_lowerDirectly recorded
  have none : PendingAccessors.empty = .plannedFor (.ofHeader file.header) [] := rfl
  rcases List.mem_append.mp member with stays | appended
  · left
    have header := List.mem_map_of_mem (f := Method.header) stays
    rwa [derived.map_header] at header
  · right
    obtain ⟨accessor, pends, rfl⟩ := List.mem_map.mp appended
    rw [derived.pending_eq none] at pends
    obtain ⟨site, inside, named⟩ := CallSite.exists_implementation?_of_needing
      (PendingAccessors.target_mem_of_plannedFor pends)
    obtain ⟨number, target, rfl⟩ := PendingAccessors.mem_plannedFor pends
    exact ⟨site, inside, target, named, rfl⟩

/-- If the name of a class can be spelled in a descriptor, the descriptors of its methods and of the
implementations of its call sites come from texts, and the owners of those implementations that are
constructors can be spelled too, then the text of every descriptor in the lowered class is read back
as that descriptor, and no two methods there have the same name and descriptor text. The accessors
among them are written as `Accessor.declaration`, whoever the collaborators are. -/
theorem lowerClass_readable {config : Config} {services : Services S} {file out : ClassFile}
    {state last : S} (name : ClassName.WellFormed file.name)
    (methods : ∀ method ∈ file.methods, method.header.descriptor.IsRead)
    (implementations : ∀ site ∈ file.lambdaSites config.metafactory,
      ∀ target ∈ site.implementation?, target.descriptor.IsRead ∧
        (target.kind = .constructor → ClassName.WellFormed target.owner))
    (lowered : lowerClass config services file state = .ok out last) :
    (∀ method ∈ out.methods, MethodDescriptor.parse method.header.descriptor.text =
      .ok method.header.descriptor) ∧
    (out.methods.map fun method =>
      (method.header.name, method.header.descriptor.text)).Nodup := by
  have wellFormed : ∀ method ∈ out.methods, method.header.descriptor.WellFormed := by
    intro method member
    rcases header_of_lowerClass lowered member with stays | ⟨site, inside, target, named, same⟩
    · obtain ⟨before, kept, same⟩ := List.mem_map.mp stays
      rw [← same]
      exact (methods before (List.mem_of_mem_filter kept)).wellFormed
    · obtain ⟨descriptor, owner⟩ := implementations site inside target named
      rw [same]
      exact Accessor.wellFormed_descriptorFor name descriptor.wellFormed owner
  refine ⟨fun method member => (wellFormed method member).parse_text, ?_⟩
  -- Already name and descriptor differ, and the text tells descriptors apart.
  have distinct := lowerClass_nodup_signature lowered
  rw [List.Nodup, List.pairwise_map] at distinct ⊢
  refine distinct.imp_of_mem ?_
  intro first second here there differ same
  obtain ⟨names, texts⟩ := Prod.mk.inj same
  have descriptors := (wellFormed first here).eq_of_text_eq (wellFormed second there) texts
  exact differ (congrArg₂ MethodSignature.mk names descriptors)

/-! A class with lambdas that make its objects and that call them, through members that are not
open to other classes. -/

namespace PrivateMembers

def make : Method :=
  ⟨.plain (.ofFlags [.isPrivate]) "<init>" ⟨[.primitive .long], .void⟩, [.simple .voidReturn]⟩

def call : Method :=
  ⟨.plain (.ofFlags [.isPrivate]) "call" ⟨[], .value (.array (.object "a/M"))⟩,
    [.simple .areturn]⟩

def run : Method :=
  ⟨.plain .none "run" ⟨[], .void⟩,
    [.dynamic (siteOf .constructor make), .dynamic (siteOf .special call), .simple .voidReturn]⟩

def file : ClassFile := ⟨.plain 52 .none "a/M", [make, call, run]⟩

def services : Services Unit :=
  { PrivateBody.services with
    declared := fun _ =>
      [⟨make.signature, make.header.access⟩, ⟨call.signature, call.header.access⟩] }

end PrivateMembers

/-- One accessor returns the class, and the other one takes it first. -/
theorem lowerClass_readable_privateMembers :
    ClassName.WellFormed PrivateMembers.file.name ∧
    ∃ out, lowerClass {} PrivateMembers.services PrivateMembers.file () = .ok out () ∧
      out.methods.map (fun method => (method.header.name, method.header.descriptor.text)) =
        [("<init>", "(J)V"), ("call", "()[La/M;"), ("run", "()V"),
          ("access$lambda$0", "(J)La/M;"), ("access$lambda$1", "(La/M;)[La/M;")] ∧
      (∀ method ∈ out.methods, MethodDescriptor.parse method.header.descriptor.text =
        .ok method.header.descriptor) ∧
      (out.methods.map fun method =>
        (method.header.name, method.header.descriptor.text)).Nodup := by
  have name : ClassName.WellFormed PrivateMembers.file.name := by
    have same : PrivateMembers.file.name = "a/M" := rfl
    rw [same]
    exact ⟨by decide, by simp⟩
  have init : MethodDescriptor.IsRead ⟨[.primitive .long], .void⟩ := ⟨"(J)V", by cbv⟩
  have call : MethodDescriptor.IsRead ⟨[], .value (.array (.object "a/M"))⟩ :=
    ⟨"()[La/M;", by cbv⟩
  have run : MethodDescriptor.IsRead ⟨[], .void⟩ := ⟨"()V", by cbv⟩
  have methods : ∀ method ∈ PrivateMembers.file.methods, method.header.descriptor.IsRead := by
    simpa [PrivateMembers.file] using ⟨init, call, run⟩
  have implementations : ∀ site ∈ PrivateMembers.file.lambdaSites lambdaMetafactory,
      ∀ target ∈ site.implementation?, target.descriptor.IsRead ∧
        (target.kind = .constructor → ClassName.WellFormed target.owner) := by
    have sites : PrivateMembers.file.lambdaSites lambdaMetafactory =
        [PrivateMembers.siteOf .constructor PrivateMembers.make,
          PrivateMembers.siteOf .special PrivateMembers.call] := by decide
    rw [sites]
    refine List.forall_mem_cons.mpr ⟨?_, List.forall_mem_singleton.mpr ?_⟩
    · intro target named
      cases named
      exact ⟨init, fun _ => name⟩
    · intro target named
      cases named
      exact ⟨call, fun _ => name⟩
  have lowered : ∃ out,
      lowerClass {} PrivateMembers.services PrivateMembers.file () = .ok out () ∧
      out.methods.map (fun method => (method.header.name, method.header.descriptor.text)) =
        [("<init>", "(J)V"), ("call", "()[La/M;"), ("run", "()V"),
          ("access$lambda$0", "(J)La/M;"), ("access$lambda$1", "(La/M;)[La/M;")] := by
    rw [lowerClass_eq_lowerDirectly]
    exact ⟨_, rfl, rfl⟩
  obtain ⟨out, lowered, texts⟩ := lowered
  exact ⟨name, out, lowered, texts, lowerClass_readable name methods implementations lowered⟩

end LambdaLowering
