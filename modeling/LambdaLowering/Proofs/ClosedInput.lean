import LambdaLowering.Proofs.Batches
import LambdaLowering.Proofs.Catalogs
import LambdaLowering.Proofs.Refusals

/-! Input that is closed: the classes to lower are all that is known and all that can be loaded.

A catalog of the classes takes the place of the index and of the loader. What can still fail is told
by the place of the failure, which is a name that is taken or a call site of a method that stays.
-/

set_option autoImplicit false

namespace LambdaLowering

variable {S : Type}

def Services.within (services : Services S) (catalog : Catalog) : Services S :=
  { services with
    declared := catalog.declarations
    load := fun name => Action.ofExcept (catalog.load name) }

/-! ## Places of failure -/

/-- Where a lowering has failed: at a name and descriptor that is taken, or at one of the sites. -/
inductive FailsAt (services : Services S) (host : HostClass) (sites : List CallSite) :
    Error → Prop
  | taken (signature : MethodSignature) :
      FailsAt services host sites (.malformed (.duplicateMethod signature))
  | site {site : CallSite} {pending after : PendingAccessors} {state last : S} {error : Error}
      (member : site ∈ sites)
      (refused : services.SiteRefused host site pending state error after last) :
      FailsAt services host sites error

section Failures

variable {services : Services S} {metafactory : String} {host : HostClass} {error : Error}

theorem FailsAt.mono {sites more : List CallSite} (subset : sites ⊆ more)
    (fails : FailsAt services host sites error) : FailsAt services host more error := by
  cases fails with
  | taken signature => exact .taken signature
  | site member refused => exact .site (subset member) refused

theorem FailsAt.of_demandFree {taken : List MethodSignature} {signature : MethodSignature}
    (failed : demandFree taken signature = .error error) : FailsAt services host [] error := by
  unfold demandFree at failed
  split at failed
  · cases failed
    exact .taken signature
  · cases failed

theorem FailsAt.of_demandAllFree {taken signatures : List MethodSignature}
    (failed : demandAllFree taken signatures = .error error) :
    FailsAt services host [] error := by
  induction signatures generalizing taken with
  | nil => cases failed
  | cons signature signatures ih =>
    rw [demandAllFree] at failed
    cases first : demandFree taken signature with
    | error cause =>
      rw [first] at failed
      cases failed
      exact .of_demandFree first
    | ok _ =>
      rw [first] at failed
      exact ih failed

theorem FailsAt.of_lowerInstruction {one : Instruction} {before last : PendingAccessors × S}
    (failed : lowerInstruction services metafactory host one before = .error error last) :
    FailsAt services host (one.lambdaSite? metafactory).toList error := by
  unfold lowerInstruction at failed
  cases found : one.lambdaSite? metafactory with
  | none =>
    rw [found] at failed
    cases failed
  | some site =>
    rw [found] at failed
    rcases Action.bind_eq_error.mp failed with refused | ⟨_, _, _, impossible⟩
    · exact .site (List.mem_singleton_self site) (.of_factoryFor refused)
    · cases impossible

theorem FailsAt.of_lowerCode {code : List Instruction} {before last : PendingAccessors × S}
    (failed : lowerCode services metafactory host code before = .error error last) :
    FailsAt services host (code.filterMap (·.lambdaSite? metafactory)) error := by
  obtain ⟨passed, one, later, _, middle, rfl, _, refused⟩ := Action.mapM_eq_error_iff.mp failed
  apply (FailsAt.of_lowerInstruction refused).mono
  intro site found
  exact List.mem_filterMap.mpr ⟨one, by simp, Option.mem_toList.mp found⟩

theorem FailsAt.of_lowerMethods {taken : List MethodSignature} {methods : List Method}
    {before last : PendingAccessors × S}
    (failed : lowerMethods services metafactory host taken methods before = .error error last) :
    FailsAt services host ((methods.filter (!·.header.isDeserializationHook)).flatMap
      (·.lambdaSites metafactory)) error := by
  induction methods generalizing taken before with
  | nil => cases failed
  | cons method methods ih =>
    obtain ⟨pending, state⟩ := before
    unfold lowerMethods at failed
    cases hook : method.header.isDeserializationHook with
    | true =>
      rw [Action.bind_of_ok (services.keeps_hook hook pending state)] at failed
      rw [List.filter_cons_of_neg (by simp [hook])]
      exact ih failed
    | false =>
      rw [Action.bind_of_ok (services.keeps_ordinary hook pending state)] at failed
      rw [List.filter_cons_of_pos (by simp [hook]), List.flatMap_cons]
      rcases Action.bind_eq_error.mp failed with duplicate | ⟨_, _, _, failed⟩
      · exact (FailsAt.of_demandFree (Action.ofExcept_eq_error.mp duplicate).1).mono
          (List.nil_subset _)
      rcases Action.bind_eq_error.mp failed with body | ⟨_, _, _, failed⟩
      · exact (FailsAt.of_lowerCode body).mono (List.subset_append_left _ _)
      rcases Action.bind_eq_error.mp failed with rest | ⟨_, _, _, impossible⟩
      · exact (ih rest).mono (List.subset_append_right _ _)
      · cases impossible

theorem FailsAt.of_lowerClass {config : Config} {file : ClassFile} {state last : S}
    (failed : lowerClass config services file state = .error error last) :
    FailsAt services (.ofHeader file.header) (file.lambdaSites config.metafactory) error := by
  rw [lowerClass_eq_lowerDirectly] at failed
  unfold lowerDirectly at failed
  rw [Action.bind_of_ok (Action.modify_apply _ _)] at failed
  rcases Action.bind_eq_error.mp failed with methods | ⟨⟨_, _⟩, _, _, failed⟩
  · obtain ⟨_, methods⟩ := Action.withOwn_eq_error.mp methods
    exact .of_lowerMethods methods
  rcases Action.bind_eq_error.mp failed with accessors | ⟨_, _, _, impossible⟩
  · obtain ⟨duplicate, _⟩ := Action.ofExcept_eq_error.mp accessors
    exact (FailsAt.of_demandAllFree duplicate).mono (List.nil_subset _)
  · cases impossible

end Failures

/-! ## Closed input -/

/-- When the classes of the input are all that is known and all that can be loaded, in whatever
order they are listed, none of them fails to be loaded while it is lowered. One fails for a method
that was not analyzed only if it is no interface, and the method is the implementation of one of its
call sites in a method that stays, and belongs to the class, which declares no method of this name
and descriptor. No accessor makes a class fail in one of these ways, since they are written as
`Accessor.declaration`. -/
theorem lowerClass_closed_input {config : Config} {services : Services S} {files : List ClassFile}
    {file : ClassFile} {state last : S} {error : Error}
    (distinct : (files.map ClassFile.name).Nodup) (member : file ∈ files)
    (refuses : ∀ request state error last, services.reify request state = .error error last →
      ∃ message, error = .reification message)
    (failed : lowerClass config (services.within (.ofClasses files)) file state =
      .error error last) :
    (∀ name reason, error ≠ .classLoad name reason) ∧
    ∀ method, error = .notAnalyzed method →
      (HostClass.ofHeader file.header).isInterface = false ∧
      (∃ site ∈ file.lambdaSites config.metafactory, site.implementation? = some method) ∧
      method.owner = file.name ∧
      ∀ other ∈ file.methods, other.signature ≠ method.signature := by
  cases FailsAt.of_lowerClass failed with
  | taken signature => exact ⟨nofun, nofun⟩
  | @site site pending after state last _ inside refused =>
    cases refused with
    | notLoaded refused =>
      -- The only class that is ever loaded is the one at hand, and it is in the catalog.
      have loads := Catalog.load_ofClasses distinct member
      cases loads.symm.trans (Action.ofExcept_eq_error.mp refused).1
    | missing loaded missing => exact ⟨nofun, nofun⟩
    | notAnalyzed loaded named unknown =>
      refine ⟨nofun, ?_⟩
      rintro method ⟨rfl⟩
      obtain ⟨_, own, ordinary, undeclared⟩ := HostClass.reaches_eq_error_iff.mp unknown
      refine ⟨ordinary, ⟨site, inside, named⟩, own, ?_⟩
      have absent := (Catalog.find?_ofClasses distinct member _).symm.trans undeclared
      rw [Option.map_eq_none_iff, ClassFile.find?, List.find?_eq_none] at absent
      intro other declared same
      exact absent other declared (beq_iff_eq.mpr same)
    | notGenerated loaded named resolved refused =>
      obtain ⟨message, rfl⟩ := refuses _ _ _ _ refused
      exact ⟨nofun, nofun⟩

namespace PrivateBody

def bodiless : ClassFile := { file with methods := [run, hook] }

/-- A class next to it with a method like the body that is missing. -/
def sibling : ClassFile := ⟨.plain 52 .none "a/N", [body]⟩

end PrivateBody

/-- The body is missing in its class, and the one in the other class does not count. -/
theorem lowerClass_closed_input_bodiless :
    let files := [PrivateBody.bodiless, PrivateBody.sibling]
    let target : MethodRef := ⟨.static, "a/M", "body", ⟨[], .void⟩⟩
    (files.map ClassFile.name).Nodup ∧
    lowerClass {} (PrivateBody.services.within (.ofClasses files)) PrivateBody.bodiless () =
      .error (.notAnalyzed target) () ∧
    (∃ site ∈ PrivateBody.bodiless.lambdaSites lambdaMetafactory,
      site.implementation? = some target) ∧
    ∀ other ∈ PrivateBody.bodiless.methods, other.signature ≠ target.signature := by
  intro files target
  have distinct : (files.map ClassFile.name).Nodup := by decide
  have failed : lowerClass {} (PrivateBody.services.within (.ofClasses files))
      PrivateBody.bodiless () = .error (.notAnalyzed target) () := by
    rw [lowerClass_eq_lowerDirectly]
    rfl
  have refuses : ∀ request state error last, PrivateBody.services.reify request state =
      .error error last → ∃ message, error = .reification message := by
    intro request state error last refused
    cases refused
  have why := lowerClass_closed_input distinct List.mem_cons_self refuses failed
  obtain ⟨_, named, _, absent⟩ := why.2 target rfl
  exact ⟨distinct, failed, named, absent⟩

end LambdaLowering
