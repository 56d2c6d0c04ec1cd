import LambdaLowering.Proofs.Checks

/-! Lowering a class that is lowered already.

A lowered class holds no hook, no lambda call site and no method twice. Lowering makes such classes
and leaves them as they are, so to lower again changes nothing, whoever is asked. No collaborator
has anything to answer then.
-/

set_option autoImplicit false

namespace LambdaLowering

variable {S T : Type}

/-- There is nothing to lower in the method. -/
structure Method.IsLowered (metafactory : String) (method : Method) : Prop where
  ordinary : method.header.isDeserializationHook = false
  siteFree : ∀ site, .dynamic site ∈ method.code → site.bootstrap.owner ≠ metafactory

/-- There is nothing to lower in the class, and it can be built. -/
structure ClassFile.IsLowered (metafactory : String) (file : ClassFile) : Prop where
  methods : ∀ method ∈ file.methods, method.IsLowered metafactory
  distinct : (file.methods.map Method.signature).Nodup

variable {metafactory : String}

theorem Method.IsLowered.lambdaSite?_eq_none {method : Method}
    (lowered : method.IsLowered metafactory) :
    ∀ one ∈ method.code, one.lambdaSite? metafactory = none := by
  intro one inside
  rw [Instruction.lambdaSite?_eq_none_iff]
  intro site dynamic
  exact lowered.siteFree site (dynamic ▸ inside)

/-! ## Lowered classes stay as they are -/

section Stays

variable {services : Services S} {host : HostClass}

theorem lowerCode_of_siteFree {code : List Instruction}
    (siteFree : ∀ one ∈ code, one.lambdaSite? metafactory = none)
    (before : PendingAccessors × S) :
    lowerCode services metafactory host code before = .ok code before := by
  induction code with
  | nil => rfl
  | cons one code ih =>
    have first : lowerInstruction services metafactory host one before = .ok one before := by
      rw [lowerInstruction, siteFree one List.mem_cons_self]
      rfl
    have rest := ih fun other member => siteFree other (List.mem_cons_of_mem one member)
    unfold lowerCode at rest ⊢
    rw [List.mapM_cons, Action.bind_of_ok first, Action.bind_of_ok rest]
    rfl

theorem lowerMethods_of_isLowered {taken : List MethodSignature} {methods : List Method}
    (lowered : ∀ method ∈ methods, method.IsLowered metafactory)
    (distinct : (taken ++ methods.map Method.signature).Nodup) (before : PendingAccessors × S) :
    lowerMethods services metafactory host taken methods before = .ok methods before := by
  induction methods generalizing taken with
  | nil => rfl
  | cons method methods ih =>
    obtain ⟨pending, state⟩ := before
    have here := lowered method List.mem_cons_self
    -- The name of the method moves over to those that are taken.
    rw [List.map_cons, ← List.singleton_append, ← List.append_assoc] at distinct
    have new : method.signature ∉ taken := by
      have apart := (List.nodup_append.mp (List.nodup_append.mp distinct).1).2.2
      exact fun member => apart _ member _ (List.mem_singleton.mpr rfl) rfl
    have free : (Action.ofExcept (demandFree taken method.signature) :
        Action (PendingAccessors × S) Unit) (pending, state) = .ok () (pending, state) := by
      rw [demandFree, if_neg new]
      rfl
    have rest := ih (fun other member => lowered other (List.mem_cons_of_mem _ member)) distinct
    unfold lowerMethods
    rw [Action.bind_of_ok (services.keeps_ordinary here.ordinary pending state)]
    simp only [↓reduceIte]
    rw [Action.bind_of_ok free,
      Action.bind_of_ok (lowerCode_of_siteFree here.lambdaSite?_eq_none (pending, state)),
      Action.bind_of_ok rest]
    rfl

theorem ClassFile.IsLowered.stats_eq {file : ClassFile} (lowered : file.IsLowered metafactory) :
    file.stats metafactory 0 = {} := by
  have hooks : file.methods.filter (·.header.isDeserializationHook) = [] := by
    rw [List.filter_eq_nil_iff]
    intro method member
    simp [(lowered.methods method member).ordinary]
  have sites : file.lambdaSites metafactory = [] := by
    rw [lambdaSites, List.flatMap_eq_nil_iff]
    intro method kept
    rw [Method.lambdaSites, List.filterMap_eq_nil_iff]
    exact (lowered.methods method (List.mem_filter.mp kept).1).lambdaSite?_eq_none
  simp [stats, sites, hooks]

/-- A lowered class stays as it is. What the collaborators notice is that the class starts, and the
report that nothing was changed. -/
theorem lowerClass_of_isLowered {config : Config} {file : ClassFile}
    (lowered : file.IsLowered config.metafactory) (services : Services S) (state : S) :
    lowerClass config services file state =
      .ok file (services.log (.classFinished (.ofHeader file.header) {})
        (config.startState services state)) := by
  have kept : (lowerMethods services config.metafactory (.ofHeader file.header) []
      file.methods).withOwn .empty (config.startState services state) =
      .ok (file.methods, .empty) (config.startState services state) :=
    Action.withOwn_eq_ok.mpr (lowerMethods_of_isLowered lowered.methods lowered.distinct _)
  rw [lowerClass_eq_lowerDirectly]
  unfold lowerDirectly
  rw [Action.bind_of_ok (Action.modify_apply _ _), Action.bind_of_ok kept, ← lowered.stats_eq]
  -- No accessor is pending, so no name is tested and none is added.
  change EStateM.Result.ok (⟨file.header, file.methods ++ []⟩ : ClassFile) _ = _
  rw [List.append_nil]
  rfl

end Stays

/-! ## Lowering makes lowered classes -/

section Makes

variable {declared : Declarations} {host : HostClass} {pending last : PendingAccessors}
variable {record : List Consultation}

theorem CodeLowered.siteFree {code lowered : List Instruction}
    (derived : CodeLowered declared metafactory host pending code lowered record last) :
    ∀ site, .dynamic site ∈ lowered → site.bootstrap.owner ≠ metafactory := by
  induction derived with
  | nil => exact fun _ member => absurd member List.not_mem_nil
  | plain plain rest ih =>
    intro site member
    rcases List.mem_cons.mp member with same | later
    · exact Instruction.lambdaSite?_eq_none_iff.mp plain site same.symm
    · exact ih site later
  | site found served rest ih =>
    intro site member
    rcases List.mem_cons.mp member with call | later
    · cases call
    · exact ih site later

theorem MethodsLowered.isLowered {methods lowered : List Method}
    (derived : MethodsLowered declared metafactory host pending methods lowered record last) :
    ∀ method ∈ lowered, method.IsLowered metafactory := by
  induction derived with
  | nil => exact fun _ member => absurd member List.not_mem_nil
  | dropped hook rest ih => exact ih
  | kept ordinary body rest ih =>
    intro method member
    rcases List.mem_cons.mp member with rfl | later
    · exact ⟨ordinary, body.siteFree⟩
    · exact ih method later

namespace Accessor

theorem dynamic_not_mem_body (accessor : Accessor) (site : CallSite) :
    .dynamic site ∉ accessor.body := by
  have allocates : .dynamic site ∉ allocation accessor.target := by
    unfold allocation
    split <;> simp
  have loads : ∀ slot types, .dynamic site ∉ loads slot types := by
    intro slot types
    induction types generalizing slot with
    | nil => exact List.not_mem_nil
    | cons type types ih => simp [Accessor.loads, ih]
  simp [body, allocates, loads, Instruction.call]

theorem numbered_declaration_isLowered (number : Nat) (host : HostClass) (target : MethodRef)
    (access : AccessFlags) : ((numbered number host target).declaration access).IsLowered
      metafactory where
  ordinary := by
    have named : nameFor number ≠ DeserializationHook.name := nameFor_ne_hook number
    simp [declaration, numbered, MethodHeader.plain, MethodHeader.isDeserializationHook, named]
  siteFree site inside := absurd inside (dynamic_not_mem_body _ site)

end Accessor

theorem isLowered_of_lowerClass {config : Config} {services : Services S} {file out : ClassFile}
    {state last : S} (lowered : lowerClass config services file state = .ok out last) :
    out.IsLowered config.metafactory where
  methods := by
    obtain ⟨record, recorded⟩ := lowerClass_recording_eq config services file state
    rw [lowered, lowerClass_eq_lowerDirectly] at recorded
    obtain ⟨methods, pending, derived, rfl⟩ := MethodsLowered.of_lowerDirectly recorded
    have none : PendingAccessors.empty = .plannedFor (.ofHeader file.header) [] := rfl
    intro method member
    rcases List.mem_append.mp member with stays | appended
    · exact derived.isLowered method stays
    · obtain ⟨accessor, pends, rfl⟩ := List.mem_map.mp appended
      rw [derived.pending_eq none] at pends
      obtain ⟨number, target, rfl⟩ := PendingAccessors.mem_plannedFor pends
      exact Accessor.numbered_declaration_isLowered _ _ _ _
  distinct := lowerClass_nodup_signature lowered

end Makes

/-- What has been lowered once is lowered again to itself with any collaborators, and none of them
is asked anything. Those classes that are lowered to themselves are just the lowered ones. Accessors
come from `Accessor.declaration`, which leaves nothing to lower. -/
theorem lowerClass_idempotent (config : Config) (services : Services S) (file : ClassFile)
    (state : S) :
    (∀ out last, lowerClass config services file state = .ok out last →
      ∀ {T : Type} (again : Config) (others : Services T) (beside : T),
        again.metafactory = config.metafactory →
        let after := others.log (.classFinished (.ofHeader out.header) {})
          (again.startState others beside)
        lowerClass again others out beside = .ok out after ∧
        lowerClass again others.recording out ([], beside) = .ok out ([], after)) ∧
    ((∃ last, lowerClass config services file state = .ok file last) ↔
      file.IsLowered config.metafactory) := by
  constructor
  · intro out last lowered T again others beside same after
    have normal := same ▸ isLowered_of_lowerClass lowered
    refine ⟨lowerClass_of_isLowered normal others beside, ?_⟩
    rw [lowerClass_of_isLowered normal, again.startState_recording]
    rfl
  · constructor
    · rintro ⟨last, lowered⟩
      exact isLowered_of_lowerClass lowered
    · intro normal
      exact ⟨_, lowerClass_of_isLowered normal services state⟩

namespace PrivateBody

def refusing : Services Unit where
  declared := fun _ => []
  load := fun name => throw (.classLoad name "no loader")
  reify := fun _ => throw (.reification "no generator")
  restartNumbering := throw (.sequenceReset "no counter")

end PrivateBody

/-- The class with its factory call and its accessor needs no collaborators any more, while the
class as it was is changed by them. -/
theorem lowerClass_idempotent_privateBody :
    lowerClass {} PrivateBody.refusing PrivateBody.lowered () = .ok PrivateBody.lowered () ∧
    lowerClass {} PrivateBody.refusing.recording PrivateBody.lowered ([], ()) =
      .ok PrivateBody.lowered ([], ()) ∧
    ¬ ∃ last, lowerClass {} PrivateBody.services PrivateBody.file () =
      .ok PrivateBody.file last := by
  have lowered : lowerClass {} PrivateBody.services PrivateBody.file () =
      .ok PrivateBody.lowered () := by
    rw [lowerClass_eq_lowerDirectly]
    rfl
  obtain ⟨again, self⟩ := lowerClass_idempotent {} PrivateBody.services PrivateBody.file ()
  obtain ⟨same, unasked⟩ := again _ _ lowered {} PrivateBody.refusing () rfl
  refine ⟨same, unasked, ?_⟩
  rw [self]
  intro normal
  have hook := (normal.methods PrivateBody.hook (by decide)).ordinary
  revert hook
  decide

end LambdaLowering
