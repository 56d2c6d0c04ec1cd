import LambdaLowering.Proofs.Agreement

/-! Lowering a class without a stream.

The direct lowering works on lists. It takes the methods one by one, keeps what they need pending,
and puts the accessors behind them at last. What it makes of a class depends on its collaborators
only through their answers.
-/

set_option autoImplicit false

namespace LambdaLowering

variable {S : Type}

def Method.lambdaSites (metafactory : String) (method : Method) : List CallSite :=
  method.code.filterMap (·.lambdaSite? metafactory)

def ClassFile.kept (file : ClassFile) : List Method :=
  file.methods.filter (!·.header.isDeserializationHook)

def ClassFile.lambdaSites (metafactory : String) (file : ClassFile) : List CallSite :=
  file.kept.flatMap (·.lambdaSites metafactory)

/-! ## The direct lowering -/

def demandFree (taken : List MethodSignature) (signature : MethodSignature) : Except Error Unit :=
  if signature ∈ taken then .error (.malformed (.duplicateMethod signature)) else .ok ()

def demandAllFree : List MethodSignature → List MethodSignature → Except Error Unit
  | _, [] => .ok ()
  | taken, signature :: rest => do
    demandFree taken signature
    demandAllFree (taken ++ [signature]) rest

section Methods

variable (services : Services S) (metafactory : String) (host : HostClass)

def lowerInstruction (instruction : Instruction) : Action (PendingAccessors × S) Instruction :=
  match instruction.lambdaSite? metafactory with
  | none => return instruction
  | some site => return (← services.factoryFor host site).call

def lowerCode (code : List Instruction) : Action (PendingAccessors × S) (List Instruction) :=
  code.mapM (lowerInstruction services metafactory host)

def lowerMethods : List MethodSignature → List Method → Action (PendingAccessors × S) (List Method)
  | _, [] => return []
  | taken, method :: methods => do
    if ← (services.keeps method.header).onSnd then
      Action.ofExcept (demandFree taken method.signature)
      let code ← lowerCode services metafactory host method.code
      let rest ← lowerMethods (taken ++ [method.signature]) methods
      return ⟨method.header, code⟩ :: rest
    else
      lowerMethods taken methods

end Methods

def ClassFile.stats (metafactory : String) (accessors : Nat) (file : ClassFile) : Stats where
  callSites := (file.lambdaSites metafactory).length
  accessors := accessors
  hooks := (file.methods.filter (·.header.isDeserializationHook)).length

/-- The lowering of a class as a function on lists. -/
def lowerDirectly (config : Config) (services : Services S) (file : ClassFile) :
    Action S ClassFile := do
  modify (config.startState services)
  let host := HostClass.ofHeader file.header
  let (methods, pending) ←
    Action.withOwn .empty (lowerMethods services config.metafactory host [] file.methods)
  let accessors := pending.entries.map (·.declaration Accessor.hostAccess)
  Action.ofExcept (demandAllFree (methods.map Method.signature) (accessors.map Method.signature))
  services.report (.classFinished host (file.stats config.metafactory accessors.length))
  return ⟨file.header, methods ++ accessors⟩

/-! ## Collaborators that answer alike -/

namespace Services.Simulate

variable {T : Type} {states : S → T → Prop} {first : Services S} {second : Services T}
variable {metafactory : String} {host : HostClass}

theorem lowerCode (simulate : Simulate states first second) {code : List Instruction}
    (same : ∀ site ∈ code.filterMap (·.lambdaSite? metafactory), ∀ target ∈ site.implementation?,
      host.reaches first.declared target = host.reaches second.declared target)
    (pending : PendingAccessors) {state : S} {beside : T} (related : states state beside) :
    Agree (Alike (Beside states)) (Beside states)
      (LambdaLowering.lowerCode first metafactory host code (pending, state))
      (LambdaLowering.lowerCode second metafactory host code (pending, beside)) := by
  induction code generalizing pending state beside with
  | nil => exact .ok ⟨rfl, ⟨related⟩⟩
  | cons one code ih =>
    have lowered : Agree (Alike (Beside states)) (Beside states)
        (lowerInstruction first metafactory host one (pending, state))
        (lowerInstruction second metafactory host one (pending, beside)) := by
      unfold lowerInstruction
      cases found : one.lambdaSite? metafactory with
      | none => exact .ok ⟨rfl, ⟨related⟩⟩
      | some site =>
        have here : site ∈ (one :: code).filterMap (·.lambdaSite? metafactory) := by simp [found]
        apply (simulate.factoryFor (same site here) pending related).bind_beside
        intro factory pending state beside related
        exact .ok ⟨rfl, ⟨related⟩⟩
    have later : ∀ site ∈ code.filterMap (·.lambdaSite? metafactory),
        site ∈ (one :: code).filterMap (·.lambdaSite? metafactory) := by
      intro site member
      rw [List.mem_filterMap] at member ⊢
      obtain ⟨other, inside, found⟩ := member
      exact ⟨other, List.mem_cons_of_mem _ inside, found⟩
    simp only [LambdaLowering.lowerCode, List.mapM_cons]
    apply lowered.bind_beside
    intro first pending state beside related
    apply (ih (fun site member => same site (later site member)) pending related).bind_beside
    intro rest pending state beside related
    exact .ok ⟨rfl, ⟨related⟩⟩

theorem lowerMethods (simulate : Simulate states first second) {methods : List Method}
    (same : ∀ method ∈ methods, method.header.isDeserializationHook = false →
      ∀ site ∈ method.lambdaSites metafactory, ∀ target ∈ site.implementation?,
        host.reaches first.declared target = host.reaches second.declared target)
    (taken : List MethodSignature) (pending : PendingAccessors) {state : S} {beside : T}
    (related : states state beside) :
    Agree (Alike (Beside states)) (Beside states)
      (LambdaLowering.lowerMethods first metafactory host taken methods (pending, state))
      (LambdaLowering.lowerMethods second metafactory host taken methods (pending, beside)) := by
  induction methods generalizing taken pending state beside with
  | nil => exact .ok ⟨rfl, ⟨related⟩⟩
  | cons method methods ih =>
    have rest := fun other member => same other (List.mem_cons_of_mem method member)
    unfold LambdaLowering.lowerMethods
    cases hook : method.header.isDeserializationHook with
    | true =>
      rw [Action.bind_of_ok (first.keeps_hook hook pending state),
        Action.bind_of_ok (second.keeps_hook hook pending beside)]
      exact ih rest taken pending (simulate.log _ _ _ related)
    | false =>
      rw [Action.bind_of_ok (first.keeps_ordinary hook pending state),
        Action.bind_of_ok (second.keeps_ordinary hook pending beside)]
      simp only [↓reduceIte]
      apply (Agree.ofExcept _ ⟨related⟩).bind_beside
      intro _ pending state beside related
      apply (simulate.lowerCode (same method List.mem_cons_self hook) pending related).bind_beside
      intro code pending state beside related
      apply (ih rest _ pending related).bind_beside
      intro lowered pending state beside related
      exact .ok ⟨rfl, ⟨related⟩⟩

theorem lowerDirectly (simulate : Simulate states first second) (config : Config)
    {file : ClassFile}
    (same : ∀ site ∈ file.lambdaSites config.metafactory, ∀ target ∈ site.implementation?,
      (HostClass.ofHeader file.header).reaches first.declared target =
        (HostClass.ofHeader file.header).reaches second.declared target)
    {state : S} {beside : T} (related : states state beside) :
    Agree (Alike states) states (LambdaLowering.lowerDirectly config first file state)
      (LambdaLowering.lowerDirectly config second file beside) := by
  -- Every site of a method that stays is one of the sites of the class.
  have sites : ∀ method ∈ file.methods, method.header.isDeserializationHook = false →
      ∀ site ∈ method.lambdaSites config.metafactory, ∀ target ∈ site.implementation?,
        (HostClass.ofHeader file.header).reaches first.declared target =
          (HostClass.ofHeader file.header).reaches second.declared target := by
    intro method member ordinary site inside
    refine same site (List.mem_flatMap.mpr ⟨method, ?_, inside⟩)
    simp [ClassFile.kept, member, ordinary]
  have methods := (simulate.lowerMethods sites [] .empty
    (simulate.startState config related)).withOwn.withOwn_right
  unfold LambdaLowering.lowerDirectly
  rw [Action.bind_of_ok (Action.modify_apply _ _), Action.bind_of_ok (Action.modify_apply _ _)]
  refine (methods.mono_states ?_).bind ?_
  · rintro _ _ ⟨_, _, ⟨related⟩⟩
    exact related
  · rintro ⟨lowered, pending⟩ _ ⟨_, _⟩ _ ⟨rfl, ⟨related⟩⟩
    apply (Agree.ofExcept _ related).bind_alike
    intro _ state beside related
    apply (simulate.report _ related).bind_alike
    intro _ state beside related
    exact .ok ⟨rfl, related⟩

end Services.Simulate

end LambdaLowering
