import LambdaLowering.Proofs.Derivations

/-! What a lowered class looks like.

Lambda call sites take turns: the first one in the class gets the first factory that is generated,
and so on. Accessors are numbered by the turns of those sites that need one. Both are shown by
induction over the derivation of the lowering.
-/

set_option autoImplicit false

namespace LambdaLowering

variable {S : Type}

/-- The generated class of a lambda cannot call the method by itself. -/
def HostClass.needsAccessor (host : HostClass) (declared : Declarations) (target : MethodRef) :
    Bool :=
  match host.reaches declared target with
  | .ok reached => !reached
  | .error _ => false

/-- What is pending once the target is called, by itself or through an accessor. -/
def PendingAccessors.admitting (pending : PendingAccessors) (declared : Declarations)
    (host : HostClass) (target : MethodRef) : PendingAccessors :=
  if host.needsAccessor declared target then pending.push (.numbered pending.size host target)
  else pending

def CallSite.needing (host : HostClass) (declared : Declarations) (sites : List CallSite) :
    List MethodRef :=
  (sites.filterMap implementation?).filter (host.needsAccessor declared)

/-- What an instruction becomes, given the lambda class that was generated at its turn. A lambda
call site becomes the call of the factory for just this site, and nothing else changes. -/
inductive Instruction.LoweredAs (metafactory : String)
    (generated : Option (LambdaRequest × Factory)) : Instruction → Instruction → Prop
  | same {one : Instruction}
      (plain : ∀ site, one = .dynamic site → site.bootstrap.owner ≠ metafactory) :
      LoweredAs metafactory generated one one
  | call {site : CallSite} {invoker : LoadedClass} {target callee : MethodRef} {factory : Factory}
      (lambda : site.bootstrap.owner = metafactory)
      (named : site.implementation? = some target)
      (answered : generated = some (site.request invoker target callee, factory)) :
      LoweredAs metafactory generated (.dynamic site)
        (.invoke .invokestatic factory.owner factory.name factory.descriptor false)

/-- What a method becomes, given the lambda classes that were generated for its class, of which so
many belong to earlier methods. The classes belong to the call sites in their order. -/
structure Method.LoweredAs (metafactory : String) (generated : List (LambdaRequest × Factory))
    (earlier : Nat) (before after : Method) : Prop where
  header : after.header = before.header
  length : after.code.length = before.code.length
  code : ∀ (index : Nat) (one : Instruction), before.code[index]? = some one →
    ∃ other, after.code[index]? = some other ∧
      one.LoweredAs metafactory
        generated[earlier +
          ((before.code.take index).filterMap (·.lambdaSite? metafactory)).length]?
        other

theorem Instruction.LoweredAs.mono {metafactory : String}
    {generated more : Option (LambdaRequest × Factory)} {one other : Instruction}
    (becomes : one.LoweredAs metafactory generated other)
    (answers : ∀ entry, generated = some entry → more = some entry) :
    one.LoweredAs metafactory more other := by
  cases becomes with
  | same plain => exact .same plain
  | call lambda named answered => exact .call lambda named (answers _ answered)

theorem Method.LoweredAs.append {metafactory : String}
    {generated : List (LambdaRequest × Factory)} {earlier : Nat} {before after : Method}
    (becomes : before.LoweredAs metafactory generated earlier after)
    (more : List (LambdaRequest × Factory)) :
    before.LoweredAs metafactory (generated ++ more) earlier after where
  header := becomes.header
  length := becomes.length
  code := by
    intro index one found
    obtain ⟨other, same, stands⟩ := becomes.code index one found
    refine ⟨other, same, stands.mono ?_⟩
    intro entry answered
    rw [List.getElem?_append_left (List.getElem?_eq_some_iff.mp answered).1]
    exact answered

theorem Method.LoweredAs.prepend {metafactory : String}
    {generated : List (LambdaRequest × Factory)} {earlier : Nat} {before after : Method}
    (becomes : before.LoweredAs metafactory generated earlier after)
    (first : List (LambdaRequest × Factory)) :
    before.LoweredAs metafactory (first ++ generated) (first.length + earlier) after where
  header := becomes.header
  length := becomes.length
  code := by
    intro index one found
    obtain ⟨other, same, stands⟩ := becomes.code index one found
    refine ⟨other, same, stands.mono ?_⟩
    intro entry answered
    rw [Nat.add_assoc, List.getElem?_append_right (Nat.le_add_right _ _), Nat.add_sub_cancel_left]
    exact answered

theorem Instruction.lambdaSite?_eq_some_iff {metafactory : String} {one : Instruction}
    {site : CallSite} :
    one.lambdaSite? metafactory = some site ↔
      one = .dynamic site ∧ site.bootstrap.owner = metafactory := by
  unfold Instruction.lambdaSite?
  cases one with
  | dynamic other =>
    simp only [beq_iff_eq, Option.ite_none_right_eq_some, Option.some.injEq, dynamic.injEq]
    constructor
    · intro matching
      rcases matching with ⟨owner, rfl⟩
      exact ⟨rfl, owner⟩
    · intro dynamic
      rcases dynamic with ⟨rfl, owner⟩
      exact ⟨owner, rfl⟩
  | _ => simp

theorem Instruction.lambdaSite?_eq_none_iff {metafactory : String} {one : Instruction} :
    one.lambdaSite? metafactory = none ↔
      ∀ site, one = .dynamic site → site.bootstrap.owner ≠ metafactory := by
  rw [Option.eq_none_iff_forall_ne_some]
  simp only [ne_eq, lambdaSite?_eq_some_iff, not_and]

/-! ## What is pending for one site -/

section Site

variable {services : Services S} {host : HostClass} {pending last : PendingAccessors}
variable {state stateLast : S}

theorem Services.resolve_admits {target callee : MethodRef}
    (ran : services.resolve host target (pending, state) = .ok callee (last, stateLast)) :
    last = pending.admitting services.declared host target := by
  rcases Services.resolve_eq_ok ran with ⟨reachable, _, same, _⟩ | ⟨unreachable, _, pushed, _⟩
  · rw [same]
    simp [PendingAccessors.admitting, HostClass.needsAccessor, reachable]
  · rw [pushed]
    simp [PendingAccessors.admitting, HostClass.needsAccessor, unreachable]

theorem Services.factoryFor_admits {site : CallSite} {factory : Factory}
    (ran : services.factoryFor host site (pending, state) = .ok factory (last, stateLast)) :
    ∃ target, site.implementation? = some target ∧
      last = pending.admitting services.declared host target := by
  obtain ⟨_, _, target, _, _, _, _, named, resolved, _⟩ := Services.factoryFor_eq_ok ran
  exact ⟨target, named, Services.resolve_admits resolved⟩

end Site

/-! ## What derivations tell -/

section Shape

variable {declared : Declarations} {metafactory : String} {host : HostClass}
variable {pending last : PendingAccessors} {record : List Consultation}

/-- What is pending once the targets have been asked for, in this order. -/
def PendingAccessors.plannedFor (host : HostClass) (targets : List MethodRef) : PendingAccessors :=
  ⟨targets.mapIdx fun number target => .numbered number host target⟩

theorem PendingAccessors.plannedFor_push (host : HostClass) (targets : List MethodRef)
    (target : MethodRef) :
    (plannedFor host targets).push (.numbered (plannedFor host targets).size host target) =
      plannedFor host (targets ++ [target]) := by
  simp [plannedFor, push, size]

theorem PendingAccessors.plannedFor_admitting (declared : Declarations) (host : HostClass)
    (targets : List MethodRef) (target : MethodRef) :
    (plannedFor host targets).admitting declared host target =
      plannedFor host (targets ++ [target].filter (host.needsAccessor declared)) := by
  unfold admitting
  split
  · rw [plannedFor_push, List.filter_cons_of_pos ‹_›, List.filter_nil]
  · rw [List.filter_cons_of_neg ‹_›, List.filter_nil, List.append_nil]

theorem CallSite.needing_append (first second : List CallSite) :
    needing host declared (first ++ second) =
      needing host declared first ++ needing host declared second := by
  simp only [needing, List.filterMap_append, List.filter_append]

variable {targets : List MethodRef}

theorem SiteLowered.pending_eq {site : CallSite} {factory : Factory}
    (served : SiteLowered declared host site (.plannedFor host targets) factory record last) :
    last = .plannedFor host (targets ++ CallSite.needing host declared [site]) := by
  cases served with
  | reached named reachable =>
    simp [CallSite.needing, HostClass.needsAccessor, named, reachable]
  | planned named unreachable numbered =>
    rw [numbered, PendingAccessors.plannedFor_push]
    simp [CallSite.needing, HostClass.needsAccessor, named, unreachable]

theorem CodeLowered.pending_eq {code lowered : List Instruction}
    (derived : CodeLowered declared metafactory host pending code lowered record last)
    (before : pending = .plannedFor host targets) :
    last = .plannedFor host (targets ++
      CallSite.needing host declared (code.filterMap (·.lambdaSite? metafactory))) := by
  induction derived generalizing targets with
  | nil =>
    rw [before]
    simp [CallSite.needing]
  | plain plain rest ih => rw [ih before, List.filterMap_cons_none plain]
  | site found served rest ih =>
    subst before
    rw [ih served.pending_eq, List.filterMap_cons_some found, List.append_assoc,
      ← CallSite.needing_append]
    rfl

theorem MethodsLowered.pending_eq {methods lowered : List Method}
    (derived : MethodsLowered declared metafactory host pending methods lowered record last)
    (before : pending = .plannedFor host targets) :
    last = .plannedFor host (targets ++ CallSite.needing host declared
      ((methods.filter (!·.header.isDeserializationHook)).flatMap
        (·.lambdaSites metafactory))) := by
  induction derived generalizing targets with
  | nil =>
    rw [before]
    simp [CallSite.needing]
  | dropped hook rest ih => rw [ih before, List.filter_cons_of_neg (by simp [hook])]
  | kept ordinary body rest ih =>
    rw [ih (body.pending_eq before), List.filter_cons_of_pos (by simp [ordinary]),
      List.flatMap_cons, CallSite.needing_append, List.append_assoc]
    rfl

theorem SiteLowered.generated {site : CallSite} {factory : Factory}
    (served : SiteLowered declared host site pending factory record last) :
    ∃ invoker target callee, site.implementation? = some target ∧
      generatedIn record = [(site.request invoker target callee, factory)] := by
  cases served with
  | reached named => exact ⟨_, _, _, named, rfl⟩
  | planned named => exact ⟨_, _, _, named, rfl⟩

theorem CodeLowered.length_generated {code lowered : List Instruction}
    (derived : CodeLowered declared metafactory host pending code lowered record last) :
    (generatedIn record).length = (code.filterMap (·.lambdaSite? metafactory)).length := by
  induction derived with
  | nil => rfl
  | plain plain rest ih => rw [ih, List.filterMap_cons_none plain]
  | site found served rest ih =>
    obtain ⟨_, _, _, _, here⟩ := served.generated
    rw [generatedIn_append, here, List.filterMap_cons_some found, List.length_append, ih]
    exact Nat.add_comm _ _

theorem MethodsLowered.length_generated {methods lowered : List Method}
    (derived : MethodsLowered declared metafactory host pending methods lowered record last) :
    (generatedIn record).length = ((methods.filter (!·.header.isDeserializationHook)).flatMap
      (·.lambdaSites metafactory)).length := by
  induction derived with
  | nil => rfl
  | dropped hook rest ih => rw [ih, List.filter_cons_of_neg (by simp [hook])]
  | kept ordinary body rest ih =>
    rw [List.filter_cons_of_pos (by simp [ordinary]), generatedIn_append, List.length_append, ih,
      body.length_generated, List.flatMap_cons, List.length_append]
    rfl

theorem CodeLowered.length_eq {code lowered : List Instruction}
    (derived : CodeLowered declared metafactory host pending code lowered record last) :
    lowered.length = code.length := by
  induction derived with
  | nil => rfl
  | plain plain rest ih => rw [List.length_cons, List.length_cons, ih]
  | site found served rest ih => rw [List.length_cons, List.length_cons, ih]

theorem CodeLowered.getElem? {code lowered : List Instruction}
    (derived : CodeLowered declared metafactory host pending code lowered record last)
    {index : Nat} {before : Instruction} (selected : code[index]? = some before) :
    ∃ after, lowered[index]? = some after ∧
      before.LoweredAs metafactory
        (generatedIn record)[((code.take index).filterMap (·.lambdaSite? metafactory)).length]?
        after := by
  -- A plain instruction takes no turn, and a site takes the first of those that are left.
  induction derived generalizing index with
  | nil => cases selected
  | plain plain rest ih =>
    cases index with
    | zero =>
      cases selected
      exact ⟨_, rfl, .same (Instruction.lambdaSite?_eq_none_iff.mp plain)⟩
    | succ index =>
      rw [List.take_succ_cons, List.filterMap_cons_none plain]
      exact ih selected
  | @site _ _ _ _ _ factory _ _ asked record found served rest ih =>
    obtain ⟨invoker, target, callee, named, here⟩ := served.generated
    rw [generatedIn_append, here]
    cases index with
    | zero =>
      cases selected
      obtain ⟨rfl, lambda⟩ := Instruction.lambdaSite?_eq_some_iff.mp found
      exact ⟨factory.call, rfl, .call lambda named rfl⟩
    | succ index =>
      rw [List.take_succ_cons, List.filterMap_cons_some found]
      exact ih selected

theorem MethodsLowered.length_eq {methods lowered : List Method}
    (derived : MethodsLowered declared metafactory host pending methods lowered record last) :
    lowered.length = (methods.filter (!·.header.isDeserializationHook)).length := by
  induction derived with
  | nil => rfl
  | dropped hook rest ih => rw [ih, List.filter_cons_of_neg (by simp [hook])]
  | kept ordinary body rest ih =>
    rw [List.filter_cons_of_pos (by simp [ordinary]), List.length_cons, List.length_cons, ih]

theorem MethodsLowered.getElem? {methods lowered : List Method}
    (derived : MethodsLowered declared metafactory host pending methods lowered record last)
    {number : Nat} {method : Method}
    (selected : (methods.filter (!·.header.isDeserializationHook))[number]? = some method) :
    ∃ after, lowered[number]? = some after ∧
      method.LoweredAs metafactory (generatedIn record)
        (((methods.filter (!·.header.isDeserializationHook)).take number).flatMap
          (·.lambdaSites metafactory)).length
        after := by
  induction derived generalizing number with
  | nil => cases selected
  | dropped hook rest ih =>
    rw [List.filter_cons_of_neg (by rw [hook]; decide)] at selected ⊢
    exact ih selected
  | @kept _ _ _ current _ _ code asked record ordinary body rest ih =>
    rw [List.filter_cons_of_pos (by rw [ordinary]; decide)] at selected ⊢
    rw [generatedIn_append]
    cases number with
    | zero =>
      cases selected
      have alone : method.LoweredAs metafactory (generatedIn asked) 0 ⟨method.header, code⟩ := by
        refine ⟨rfl, body.length_eq, ?_⟩
        intro index one found
        rw [Nat.zero_add]
        exact body.getElem? found
      exact ⟨_, rfl, alone.append _⟩
    | succ number =>
      obtain ⟨after, same, becomes⟩ := ih selected
      -- The first method has used up one turn for each of its sites.
      have length : (current.lambdaSites metafactory).length = (generatedIn asked).length :=
        body.length_generated.symm
      refine ⟨after, same, ?_⟩
      rw [List.take_succ_cons, List.flatMap_cons, List.length_append, length]
      exact becomes.prepend _

end Shape

/-! ## Lowered classes -/

/-- A class that is lowered keeps its header and its methods but the hook. In their code only the
lambda call sites change, and each becomes the call of the factory that was generated for it. The
accessors that call sites need come last, numbered in the order of the sites. Whoever the
collaborators are, it is the lowering that writes them, each as `Accessor.declaration`. -/
theorem lowerClass_shape {config : Config} {services : Services S} {file out : ClassFile}
    {state last : S} (lowered : lowerClass config services file state = .ok out last) :
    let host := HostClass.ofHeader file.header
    let sites := file.lambdaSites config.metafactory
    ∃ record methods,
      lowerClass config services.recording file ([], state) = .ok out (record, last) ∧
      (generatedIn record).length = sites.length ∧
      out.header = file.header ∧
      out.methods = methods ++
        (CallSite.needing host services.declared sites).mapIdx (fun number target =>
          let name := "access$lambda$" ++ toString number
          let descriptor := Accessor.descriptorFor host target
          { header := {
              access := .ofFlags [.isStatic, .isSynthetic]
              name := name
              descriptor := descriptor
              genericSignature := none
              exceptions := [] }
            code := Accessor.body ⟨⟨.static, host.name, name, descriptor⟩, target⟩ }) ∧
      methods.length = file.kept.length ∧
      ∀ (number : Nat) (method : Method), file.kept[number]? = some method →
        ∃ after, methods[number]? = some after ∧
          method.LoweredAs config.metafactory (generatedIn record)
            ((file.kept.take number).flatMap (·.lambdaSites config.metafactory)).length after := by
  intro host sites
  have agree := lowerClass_recording_agree config services file [] state
  rw [lowered] at agree
  obtain ⟨_, ⟨record, _⟩, recorded, rfl, rfl⟩ := agree.ok_of_right
  have direct := recorded
  rw [lowerClass_eq_lowerDirectly] at direct
  obtain ⟨methods, pending, derived, rfl⟩ := MethodsLowered.of_lowerDirectly direct
  refine ⟨record, methods, recorded, derived.length_generated, rfl, ?_, derived.length_eq, ?_⟩
  · have none : PendingAccessors.empty = .plannedFor host [] := rfl
    rw [derived.pending_eq none]
    simp only [PendingAccessors.plannedFor, List.mapIdx_eq_zipIdx_map, List.map_map]
    rfl
  · intro number method selected
    exact derived.getElem? selected

/-! A class with a lambda whose body is a private method of the class. -/

namespace PrivateBody

def body : Method :=
  ⟨.plain (.ofFlags [.isPrivate, .isStatic]) "body" ⟨[], .void⟩, [.simple .voidReturn]⟩

def site : CallSite where
  name := "get"
  descriptor := ⟨[], .value (.object "b/F")⟩
  bootstrap := ⟨.static, lambdaMetafactory, "metafactory", ⟨[], .void⟩⟩
  arguments := [.int 0, .handle ⟨.static, "a/M", "body", ⟨[], .void⟩⟩]

def run : Method := ⟨.plain .none "run" ⟨[], .void⟩, [.dynamic site, .simple .voidReturn]⟩

def hook : Method :=
  ⟨.plain (.ofFlags [.isSynthetic]) "$deserializeLambda$"
    ⟨[.object "java/lang/invoke/SerializedLambda"], .value (.object "java/lang/Object")⟩, []⟩

def file : ClassFile := ⟨.plain 52 .none "a/M", [run, hook, body]⟩

def services : Services Unit where
  declared := fun _ => [⟨body.signature, body.header.access⟩]
  load := fun name => pure ⟨name⟩
  reify := fun request => pure ⟨"a/M$0", "make", request.invokedType⟩
  restartNumbering := pure ()

def lowered : ClassFile where
  header := file.header
  methods := [
    ⟨run.header, [.invoke .invokestatic "a/M$0" "make" site.descriptor false, .simple .voidReturn]⟩,
    body,
    ⟨.plain (.ofFlags [.isStatic, .isSynthetic]) "access$lambda$0" ⟨[], .void⟩,
      [.invoke .invokestatic "a/M" "body" ⟨[], .void⟩ false, .simple .voidReturn]⟩]

/-- The same private body behind two call sites; a third one is in the hook. -/
def twice : ClassFile where
  header := file.header
  methods := [{ run with code := [.dynamic site, .dynamic site, .simple .voidReturn] },
    { hook with code := [.dynamic site] }, body]

def loweredTwice : ClassFile where
  header := file.header
  methods := [
    { run with code := [.invoke .invokestatic "a/M$0" "make" site.descriptor false,
        .invoke .invokestatic "a/M$0" "make" site.descriptor false, .simple .voidReturn] },
    body,
    ⟨.plain (.ofFlags [.isStatic, .isSynthetic]) "access$lambda$0" ⟨[], .void⟩,
      [.invoke .invokestatic "a/M" "body" ⟨[], .void⟩ false, .simple .voidReturn]⟩,
    ⟨.plain (.ofFlags [.isStatic, .isSynthetic]) "access$lambda$1" ⟨[], .void⟩,
      [.invoke .invokestatic "a/M" "body" ⟨[], .void⟩ false, .simple .voidReturn]⟩]

end PrivateBody

/-- The hook is gone, and the accessor of the private body comes last. -/
theorem lowerClass_shape_privateBody :
    lowerClass {} PrivateBody.services PrivateBody.file () = .ok PrivateBody.lowered () ∧
    ∃ record, lowerClass {} PrivateBody.services.recording PrivateBody.file ([], ()) =
        .ok PrivateBody.lowered (record, ()) ∧
      (generatedIn record).length = 1 := by
  have lowered : lowerClass {} PrivateBody.services PrivateBody.file () =
      .ok PrivateBody.lowered () := by
    rw [lowerClass_eq_lowerDirectly]
    rfl
  obtain ⟨record, methods, recorded, generated, _⟩ := lowerClass_shape lowered
  exact ⟨lowered, record, recorded, generated⟩

end LambdaLowering
