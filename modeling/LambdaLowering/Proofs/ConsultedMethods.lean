import LambdaLowering.Proofs.LoweredClass

/-! What the lowering of a class asks of the declared methods.

It asks for nothing but the implementations of the call sites that it lowers. Whatever else is
declared, of the class or of any other, has no part in what becomes of the class, nor in what the
collaborators are asked.
-/

set_option autoImplicit false

namespace LambdaLowering

variable {S : Type}

theorem HostClass.reaches_congr {host : HostClass} {first second : Declarations}
    {target : MethodRef}
    (same : first.find? target.owner target.signature =
      second.find? target.owner target.signature) :
    host.reaches first target = host.reaches second target := by
  unfold reaches
  split
  next own =>
    -- An owned method is looked up under the name of the host, which is its owner.
    rw [beq_iff_eq.mp own] at same
    rw [reachesOwn, reachesOwn, same]
  next =>
    rw [reachesForeign, reachesForeign, same]

def CallSite.namesMethod (site : CallSite) (owner : String) (signature : MethodSignature) : Bool :=
  site.implementation?.any fun target => target.owner == owner && target.signature == signature

/-- Only what is declared of the methods that some call site names. -/
def Declarations.named (declared : Declarations) (sites : List CallSite) : Declarations :=
  fun owner => (declared owner).filter fun method =>
    sites.any (·.namesMethod owner method.signature)

theorem Declarations.find?_named {sites : List CallSite} {site : CallSite} {target : MethodRef}
    (member : site ∈ sites) (named : site.implementation? = some target)
    (declared : Declarations) :
    (declared.named sites).find? target.owner target.signature =
      declared.find? target.owner target.signature := by
  have kept : sites.any (·.namesMethod target.owner target.signature) = true := by
    refine List.any_eq_true.mpr ⟨site, member, ?_⟩
    simp [CallSite.namesMethod, named]
  rw [find?, find?, Declarations.named, List.find?_filter]
  congr 1
  funext method
  by_cases same : method.signature = target.signature
  · simp [same, kept]
  · simp [same]

namespace Services

def withDeclared (services : Services S) (declared : Declarations) : Services S :=
  { services with declared }

theorem withDeclared_simulate (services : Services S) (declared : Declarations) :
    Simulate Eq (services.withDeclared declared) services where
  load := by
    rintro name state _ rfl
    exact .refl _
  reify := by
    rintro request state _ rfl
    exact .refl _
  restart := by
    rintro state _ rfl
    exact .refl _
  log := by
    rintro entry state _ rfl
    rfl

end Services

theorem lowerClass_withDeclared {config : Config} (services : Services S) {file : ClassFile}
    {declared : Declarations}
    (agree : ∀ site ∈ file.lambdaSites config.metafactory, ∀ target ∈ site.implementation?,
      declared.find? target.owner target.signature =
        services.declared.find? target.owner target.signature) (state : S) :
    lowerClass config (services.withDeclared declared) file state =
      lowerClass config services file state := by
  have reached : ∀ site ∈ file.lambdaSites config.metafactory, ∀ target ∈ site.implementation?,
      (HostClass.ofHeader file.header).reaches declared target =
        (HostClass.ofHeader file.header).reaches services.declared target := by
    intro site member target named
    exact HostClass.reaches_congr (agree site member target named)
  rw [lowerClass_eq_lowerDirectly, lowerClass_eq_lowerDirectly]
  exact ((services.withDeclared_simulate declared).lowerDirectly config reached rfl).eq

/-- A class is lowered alike under any two indexes that find the same for the implementations of its
call sites: to the same class or with the same error, with the same effects on the collaborators,
who are asked the same. So it does not matter what is declared of methods that none of its call
sites names. Either way the accessors are written as `Accessor.declaration`. -/
theorem lowerClass_consults_named (config : Config) (services : Services S) (file : ClassFile)
    (declared : Declarations) :
    let sites := file.lambdaSites config.metafactory
    let other := services.withDeclared declared
    let alike :=
      (∀ state, lowerClass config other file state = lowerClass config services file state) ∧
      (∀ state, lowerClass config other.recording file ([], state) =
        lowerClass config services.recording file ([], state))
    ((∀ site ∈ sites, ∀ target ∈ site.implementation?,
        declared.find? target.owner target.signature =
          services.declared.find? target.owner target.signature) → alike) ∧
    ((∀ owner, declared.named sites owner = services.declared.named sites owner) → alike) := by
  intro sites other alike
  have main : (∀ site ∈ sites, ∀ target ∈ site.implementation?,
      declared.find? target.owner target.signature =
        services.declared.find? target.owner target.signature) → alike := by
    intro agree
    -- To keep a record does not change what is declared.
    exact ⟨lowerClass_withDeclared services agree,
      fun state => lowerClass_withDeclared services.recording agree ([], state)⟩
  refine ⟨main, ?_⟩
  intro same
  apply main
  intro site member target named
  rw [← declared.find?_named member named, ← services.declared.find?_named member named]
  exact congrArg (List.find? _) (same target.owner)

namespace PrivateBody

/-- An index that knows more methods of the class, another of the same name as the body among them,
and has forgotten all of the others. -/
def moreDeclared : Declarations := fun owner =>
  if owner = "a/M" then
    [⟨⟨"body", ⟨[.primitive .int], .void⟩⟩, .ofFlags [.isPublic]⟩,
      ⟨body.signature, body.header.access⟩,
      ⟨run.signature, run.header.access⟩]
  else []

end PrivateBody

/-- The body is still found to be private. -/
theorem lowerClass_consults_named_more :
    (∀ site ∈ PrivateBody.file.lambdaSites lambdaMetafactory, ∀ target ∈ site.implementation?,
      PrivateBody.moreDeclared.find? target.owner target.signature =
        PrivateBody.services.declared.find? target.owner target.signature) ∧
    PrivateBody.moreDeclared "a/N" ≠ PrivateBody.services.declared "a/N" ∧
    lowerClass {} (PrivateBody.services.withDeclared PrivateBody.moreDeclared) PrivateBody.file () =
      .ok PrivateBody.lowered () := by
  have agree : ∀ site ∈ PrivateBody.file.lambdaSites lambdaMetafactory,
      ∀ target ∈ site.implementation?,
      PrivateBody.moreDeclared.find? target.owner target.signature =
        PrivateBody.services.declared.find? target.owner target.signature := by
    decide
  have lowered : lowerClass {} PrivateBody.services PrivateBody.file () =
      .ok PrivateBody.lowered () := by
    rw [lowerClass_eq_lowerDirectly]
    rfl
  have alike := (lowerClass_consults_named {} PrivateBody.services PrivateBody.file
    PrivateBody.moreDeclared).1 agree
  exact ⟨agree, by decide, (alike.1 ()).trans lowered⟩

end LambdaLowering
