import LambdaLowering.Proofs.Checks
import LambdaLowering.Proofs.Promises

/-! Instructions that are refused.

A refusal takes nothing back. What it leaves behind is told by the step that fails: all that can
change before are the accessors that are pending and the count of the open method.
-/

set_option autoImplicit false

namespace LambdaLowering

variable {S : Type}

/-! ## Sites without a factory -/

/-- Why a site gets no factory, and what is pending by then. Only the generator is asked after an
accessor may have been planned. -/
inductive Services.SiteRefused (services : Services S) (host : HostClass) (site : CallSite)
    (pending : PendingAccessors) (state : S) : Error → PendingAccessors → S → Prop
  | notLoaded {error : Error} {last : S}
      (refused : services.load host.name state = .error error last) :
      SiteRefused services host site pending state error pending last
  | missing {invoker : LoadedClass} {last : S}
      (loaded : services.load host.name state = .ok invoker last)
      (missing : site.implementation? = none) :
      SiteRefused services host site pending state
        (.malformed (.missingImplementation site host.name)) pending last
  | notAnalyzed {invoker : LoadedClass} {target : MethodRef} {last : S}
      (loaded : services.load host.name state = .ok invoker last)
      (named : site.implementation? = some target)
      (unknown : host.reaches services.declared target = .error (.notAnalyzed target)) :
      SiteRefused services host site pending state (.notAnalyzed target) pending last
  | notGenerated {invoker : LoadedClass} {target callee : MethodRef} {error : Error}
      {middle asking last : S}
      (loaded : services.load host.name state = .ok invoker middle)
      (named : site.implementation? = some target)
      (resolved : services.resolve host target (pending, middle) =
        .ok callee (pending.admitting services.declared host target, asking))
      (refused : services.reify (site.request invoker target callee) asking = .error error last) :
      SiteRefused services host site pending state error
        (pending.admitting services.declared host target) last

theorem Services.resolve_eq_error {services : Services S} {host : HostClass} {target : MethodRef}
    {pending after : PendingAccessors} {state last : S} {error : Error}
    (failed : services.resolve host target (pending, state) = .error error (after, last)) :
    host.reaches services.declared target = .error (.notAnalyzed target) ∧
      error = .notAnalyzed target ∧ after = pending ∧ last = state := by
  rw [Services.resolve_apply] at failed
  cases reaches : host.reaches services.declared target with
  | error cause =>
    cases HostClass.reaches_eq_error reaches
    rw [reaches] at failed
    cases failed
    exact ⟨rfl, rfl, rfl, rfl⟩
  | ok reached =>
    rw [reaches] at failed
    cases reached <;> cases failed

theorem Services.SiteRefused.of_factoryFor {services : Services S} {host : HostClass}
    {site : CallSite} {pending after : PendingAccessors} {state last : S} {error : Error}
    (failed : services.factoryFor host site (pending, state) = .error error (after, last)) :
    services.SiteRefused host site pending state error after last := by
  unfold factoryFor at failed
  -- Step after step: either it fails itself, or it succeeds and the next one is looked at.
  rcases Action.bind_eq_error.mp failed with load | ⟨invoker, ⟨_, _⟩, load, afterLoad⟩
  · obtain ⟨rfl, refused⟩ := Action.onSnd_eq_error load
    exact .notLoaded refused
  obtain ⟨rfl, loaded⟩ := Action.onSnd_eq_ok load
  cases named : site.implementation? with
  | none =>
    rw [named] at afterLoad
    cases afterLoad
    exact .missing loaded named
  | some target =>
    rw [named] at afterLoad
    rcases Action.bind_eq_error.mp afterLoad with resolve | ⟨callee, ⟨_, _⟩, resolve, afterResolve⟩
    · obtain ⟨unknown, rfl, rfl, rfl⟩ := Services.resolve_eq_error resolve
      exact .notAnalyzed loaded named unknown
    obtain rfl := Services.resolve_admits resolve
    rcases Action.bind_eq_error.mp afterResolve with reify | ⟨factory, _, _, afterReify⟩
    · obtain ⟨rfl, refused⟩ := Action.onSnd_eq_error reify
      exact .notGenerated loaded named resolve refused
    · cases afterReify

theorem Services.factoryFor_eq_error_iff {services : Services S} {host : HostClass}
    {site : CallSite} {pending after : PendingAccessors} {state last : S} {error : Error} :
    services.factoryFor host site (pending, state) = .error error (after, last) ↔
      services.SiteRefused host site pending state error after last := by
  refine ⟨.of_factoryFor, fun refused => ?_⟩
  have load {invoker : LoadedClass} {middle : S}
      (loaded : services.load host.name state = .ok invoker middle) :
      (services.load host.name).onSnd (pending, state) = .ok invoker (pending, middle) := by
    rw [Action.onSnd_apply, loaded]
    rfl
  unfold factoryFor
  cases refused with
  | notLoaded refused =>
    rw [Action.bind_apply, Action.onSnd_apply, refused]
    rfl
  | missing loaded missing =>
    rw [Action.bind_of_ok (load loaded), missing]
    rfl
  | notAnalyzed loaded named unknown =>
    rw [Action.bind_of_ok (load loaded), named]
    simp only [Action.bind_apply, Services.resolve_apply, unknown]
  | notGenerated loaded named resolved refused =>
    rw [Action.bind_of_ok (load loaded), named]
    simp only [Action.bind_of_ok resolved]
    rw [Action.bind_apply, Action.onSnd_apply, refused]
    rfl

/-! ## Refused instructions -/

namespace ClassLowering

section Instruction

variable (config : Config) (services : Services S) (consumer : Sink S)

/-- Why an instruction is refused, and what has become of the lowering by then. A site may count as
replaced when the consumer refuses the call of its factory. -/
inductive Refused (one : Instruction) (lowering : ClassLowering) (state : S) :
    Error → ClassLowering → S → Prop
  | outside (outside : lowering.host = none ∨ lowering.current = none) :
      Refused one lowering state (.malformed (.instructionOutsideMethod one)) lowering state
  | plain {host : HostClass} {replaced : Nat} {error : Error} {last : S}
      (inClass : lowering.host = some host) (inMethod : lowering.current = some replaced)
      (plain : one.lambdaSite? config.metafactory = none)
      (refused : consumer.receive (.instruction one) state = .error error last) :
      Refused one lowering state error lowering last
  | site {host : HostClass} {replaced : Nat} {site : CallSite} {error : Error}
      {pending : PendingAccessors} {last : S}
      (inClass : lowering.host = some host) (inMethod : lowering.current = some replaced)
      (found : one.lambdaSite? config.metafactory = some site)
      (refused : services.SiteRefused host site lowering.pending state error pending last) :
      Refused one lowering state error { lowering with pending } last
  | call {host : HostClass} {replaced count : Nat} {site : CallSite} {target : MethodRef}
      {factory : Factory} {error : Error} {middle last : S}
      (inClass : lowering.host = some host) (inMethod : lowering.current = some replaced)
      (found : one.lambdaSite? config.metafactory = some site)
      (named : site.implementation? = some target)
      (served : services.factoryFor host site (lowering.pending, state) =
        .ok factory (lowering.pending.admitting services.declared host target, middle))
      (refused : consumer.receive (.instruction factory.call) middle = .error error last)
      (counted : replaced ≤ count ∧ count ≤ replaced + 1) :
      Refused one lowering state error
        { lowering with
          pending := lowering.pending.admitting services.declared host target
          current := some count } last

variable {config services consumer}
variable {one : Instruction} {lowering after : ClassLowering} {state last : S} {error : Error}

theorem Refused.of_receive
    (refused : (sink config services consumer).receive (.instruction one) (lowering, state) =
      .error error (after, last)) :
    Refused config services consumer one lowering state error after last := by
  by_cases outside : lowering.host = none ∨ lowering.current = none
  · rw [receive_instruction_outside _ _ _ outside] at refused
    cases refused
    exact .outside outside
  obtain ⟨inClass, inMethod⟩ := not_or.mp outside
  obtain ⟨host, inClass⟩ := Option.ne_none_iff_exists'.mp inClass
  obtain ⟨replaced, inMethod⟩ := Option.ne_none_iff_exists'.mp inMethod
  have sent := send_eq_error.mpr refused
  cases found : one.lambdaSite? config.metafactory with
  | none =>
    rw [send_instruction_plain _ _ _ inClass inMethod found] at sent
    obtain ⟨_, passed, same⟩ := Action.onState_eq_error.mp sent
    cases same
    exact .plain inClass inMethod found (send_eq_error.mp passed)
  | some site =>
    rw [send_instruction_site _ _ _ inClass inMethod found] at sent
    cases served : services.factoryFor host site (lowering.pending, state) with
    | error cause reached =>
      rw [served] at sent
      cases sent
      exact .site inClass inMethod found (Services.factoryFor_eq_error_iff.mp served)
    | ok factory reached =>
      rw [served] at sent
      -- With a factory at hand only the consumer is left to refuse.
      obtain ⟨target, named, pending⟩ := Services.factoryFor_admits served
      obtain ⟨_, passed, same⟩ := Action.onState_eq_error.mp sent
      cases same
      rw [pending]
      exact .call inClass inMethod found named (by rw [served, ← pending])
        (send_eq_error.mp passed) ⟨Nat.le_succ replaced, le_rfl⟩

/-- A refused instruction changes neither the class at hand, nor what has been counted for it, nor
whether a method is open. Nothing at all changes if no call site is lowered, or if no class is
generated for it since the host cannot be loaded, the implementation is missing or it is not known.
If the generator refuses the site, or the consumer the call, the accessor that the site needs is
pending from then on, and no other. It is written at the class end at the earliest, and then as
`Accessor.declaration`. -/
theorem receive_instruction_refused
    (refused : (sink config services consumer).receive (.instruction one) (lowering, state) =
      .error error (after, last)) :
    after.host = lowering.host ∧ after.stats = lowering.stats ∧
      after.current.isSome = lowering.current.isSome ∧
      Refused config services consumer one lowering state error after last := by
  have why := Refused.of_receive refused
  refine ⟨?_, ?_, ?_, why⟩
  · cases why <;> rfl
  · cases why <;> rfl
  · cases why with
    | call inClass inMethod => rw [inMethod]; rfl
    | _ => rfl

end Instruction

end ClassLowering

namespace PrivateBody

def generatorless : Services Unit :=
  { services with reify := fun _ => throw (.reification "no generator") }

def codeless : Sink Unit where
  receive
    | .instruction _ => throw (.reification "no code")
    | _ => pure true

def inRun : ClassLowering := { host := some (.ofHeader file.header), current := some 0 }

/-- The same with an accessor for the private body. -/
def planning : ClassLowering :=
  { inRun with pending := .plannedFor (.ofHeader file.header) [request.implementation] }

end PrivateBody

/-- The generator refuses the site, and the accessor for the private body is pending. -/
theorem ClassLowering.receive_instruction_refused_privateBody :
    let engine := ClassLowering.sink {} PrivateBody.generatorless PrivateBody.codeless
    let one := Instruction.dynamic PrivateBody.site
    let error := Error.reification "no generator"
    engine.receive (.instruction one) (PrivateBody.inRun, ()) =
        .error error (PrivateBody.planning, ()) ∧
      ClassLowering.Refused {} PrivateBody.generatorless PrivateBody.codeless one
        PrivateBody.inRun () error PrivateBody.planning () := by
  intro engine one error
  have refused : engine.receive (.instruction one) (PrivateBody.inRun, ()) =
      .error error (PrivateBody.planning, ()) := by
    with_unfolding_all rfl
  exact ⟨refused, (ClassLowering.receive_instruction_refused refused).2.2.2⟩

/-- A site for which no class is generated plans an accessor, and the class declares it though
nothing calls it. A site whose call is refused plans one as well, and counts. -/
theorem ClassLowering.refused_instruction_changes :
    let one := Event.instruction (.dynamic PrivateBody.site)
    let engine := ClassLowering.intoBuilder {} PrivateBody.generatorless
    let reached := engine.offerAll ({}, .initial, ()) PrivateBody.opening
    let refused := engine.offer reached one
    let strict := ClassLowering.sink {} PrivateBody.services PrivateBody.codeless
    let stopped := strict.receive one (PrivateBody.inRun, ())
    refused.1 = .error (.reification "no generator") ∧
      reached.1 = PrivateBody.inRun ∧ refused.2.1 = PrivateBody.planning ∧
      (engine.offerAll refused.2 [.methodEnd, .classEnd]).2.1.finish =
        .ok ⟨PrivateBody.file.header, [⟨PrivateBody.run.header, []⟩, PrivateBody.accessor]⟩ ∧
      stopped = .error (.reification "no code")
        ({ PrivateBody.planning with current := some 1 }, ()) ∧
      PrivateBody.planning.pending ≠ PrivateBody.inRun.pending ∧
      PrivateBody.inRun.current ≠ some 1 := by
  refine ⟨?_, ?_, ?_, ?_, ?_, by decide, by decide⟩
  all_goals with_unfolding_all rfl

end LambdaLowering
