import LambdaLowering.Proofs.Recording

/-! Derivations of lowerings that succeed.

A derivation follows the methods, their code and their call sites. It says what every site asked of
the collaborators and what is pending from then on. A run with a record has one.
-/

set_option autoImplicit false

namespace LambdaLowering

variable {S : Type}

section Derivations

variable (declared : Declarations) (metafactory : String) (host : HostClass)

/-- One call site gets its factory. The derivation says what is pending before and after, and what
is asked. -/
inductive SiteLowered (site : CallSite) :
    PendingAccessors → Factory → List Consultation → PendingAccessors → Prop
  | reached {pending : PendingAccessors} {factory : Factory} {target : MethodRef}
      {invoker : LoadedClass} (named : site.implementation? = some target)
      (reachable : host.reaches declared target = .ok true) :
      SiteLowered site pending factory
        [.load host.name (.ok invoker), .reify (site.request invoker target target) (.ok factory)]
        pending
  | planned {pending : PendingAccessors} {factory : Factory} {target : MethodRef}
      {invoker : LoadedClass} {accessor : Accessor} (named : site.implementation? = some target)
      (unreachable : host.reaches declared target = .ok false)
      (numbered : accessor = .numbered pending.size host target) :
      SiteLowered site pending factory
        [.load host.name (.ok invoker),
          .reify (site.request invoker target accessor.method) (.ok factory)]
        (pending.push accessor)

inductive CodeLowered : PendingAccessors → List Instruction → List Instruction →
    List Consultation → PendingAccessors → Prop
  | nil {pending : PendingAccessors} : CodeLowered pending [] [] [] pending
  | plain {pending last : PendingAccessors} {one : Instruction} {code lowered : List Instruction}
      {record : List Consultation} (plain : one.lambdaSite? metafactory = none)
      (rest : CodeLowered pending code lowered record last) :
      CodeLowered pending (one :: code) (one :: lowered) record last
  | site {pending middle last : PendingAccessors} {one : Instruction} {site : CallSite}
      {factory : Factory} {code lowered : List Instruction} {asked record : List Consultation}
      (found : one.lambdaSite? metafactory = some site)
      (served : SiteLowered declared host site pending factory asked middle)
      (rest : CodeLowered middle code lowered record last) :
      CodeLowered pending (one :: code) (factory.call :: lowered) (asked ++ record) last

inductive MethodsLowered : PendingAccessors → List Method → List Method → List Consultation →
    PendingAccessors → Prop
  | nil {pending : PendingAccessors} : MethodsLowered pending [] [] [] pending
  | dropped {pending last : PendingAccessors} {method : Method} {methods lowered : List Method}
      {record : List Consultation} (hook : method.header.isDeserializationHook = true)
      (rest : MethodsLowered pending methods lowered record last) :
      MethodsLowered pending (method :: methods) lowered record last
  | kept {pending middle last : PendingAccessors} {method : Method} {methods lowered : List Method}
      {code : List Instruction} {asked record : List Consultation}
      (ordinary : method.header.isDeserializationHook = false)
      (body : CodeLowered declared metafactory host pending method.code code asked middle)
      (rest : MethodsLowered middle methods lowered record last) :
      MethodsLowered pending (method :: methods) (⟨method.header, code⟩ :: lowered)
        (asked ++ record) last

end Derivations

/-! ## Runs with a record have a derivation -/

section Runs

variable {services : Services S} {metafactory : String} {host : HostClass}
variable {pending last : PendingAccessors} {record recordLast : List Consultation}
variable {state stateLast : S}

theorem Services.resolve_eq_ok {services : Services S} {target callee : MethodRef}
    (ran : services.resolve host target (pending, state) = .ok callee (last, stateLast)) :
    (host.reaches services.declared target = .ok true ∧
      callee = target ∧ last = pending ∧ stateLast = state) ∨
    (host.reaches services.declared target = .ok false ∧
      let accessor := Accessor.numbered pending.size host target
      callee = accessor.method ∧ last = pending.push accessor ∧
        stateLast = services.log (.accessorPlanned accessor) state) := by
  rw [Services.resolve_apply] at ran
  cases reaches : host.reaches services.declared target with
  | error error =>
    rw [reaches] at ran
    cases ran
  | ok reached =>
    rw [reaches] at ran
    cases reached with
    | true =>
      cases ran
      exact .inl ⟨rfl, rfl, rfl, rfl⟩
    | false =>
      cases ran
      exact .inr ⟨rfl, rfl, rfl, rfl⟩

theorem Services.factoryFor_eq_ok {services : Services S} {site : CallSite} {factory : Factory}
    (ran : services.factoryFor host site (pending, state) = .ok factory (last, stateLast)) :
    ∃ invoker loaded target callee asking made,
      services.load host.name state = .ok invoker loaded ∧
      site.implementation? = some target ∧
      services.resolve host target (pending, loaded) = .ok callee (last, asking) ∧
      services.reify (site.request invoker target callee) asking = .ok factory made ∧
      stateLast = services.log (.callSiteLowered host target factory) made := by
  unfold factoryFor at ran
  obtain ⟨invoker, ⟨_, loaded⟩, load, afterLoad⟩ := Action.bind_eq_ok.mp ran
  obtain ⟨rfl, answered⟩ := Action.onSnd_eq_ok load
  cases named : site.implementation? with
  | none =>
    rw [named] at afterLoad
    cases afterLoad
  | some target =>
    rw [named] at afterLoad
    obtain ⟨callee, ⟨_, asking⟩, resolve, afterResolve⟩ := Action.bind_eq_ok.mp afterLoad
    obtain ⟨_, ⟨_, made⟩, reify, afterReify⟩ := Action.bind_eq_ok.mp afterResolve
    obtain ⟨rfl, generated⟩ := Action.onSnd_eq_ok reify
    cases afterReify
    exact ⟨invoker, loaded, target, callee, asking, made, answered, rfl, resolve, generated, rfl⟩

theorem SiteLowered.of_factoryFor {site : CallSite} {factory : Factory}
    (ran : services.recording.factoryFor host site (pending, record, state) =
      .ok factory (last, recordLast, stateLast)) :
    ∃ asked, recordLast = record ++ asked ∧
      SiteLowered services.declared host site pending factory asked last := by
  obtain ⟨invoker, ⟨_, _⟩, target, callee, ⟨_, _⟩, ⟨_, _⟩, load, named, resolve, reify, logged⟩ :=
    Services.factoryFor_eq_ok ran
  obtain rfl := Action.recorded_eq_ok load
  obtain rfl := Action.recorded_eq_ok reify
  cases logged
  -- Planning an accessor is logged, but it is no question, so the record is the same either way.
  rcases Services.resolve_eq_ok resolve with ⟨reachable, called, kept, same⟩ |
    ⟨unreachable, called, pushed, logged⟩
  · cases same
    subst called kept
    exact ⟨_, List.append_assoc _ _ _, .reached named reachable⟩
  · cases logged
    subst called pushed
    exact ⟨_, List.append_assoc _ _ _, .planned named unreachable rfl⟩

theorem CodeLowered.of_lowerCode {code lowered : List Instruction}
    (ran : lowerCode services.recording metafactory host code (pending, record, state) =
      .ok lowered (last, recordLast, stateLast)) :
    ∃ asked, recordLast = record ++ asked ∧
      CodeLowered services.declared metafactory host pending code lowered asked last := by
  induction code generalizing pending record state lowered with
  | nil =>
    cases ran
    exact ⟨[], (List.append_nil _).symm, .nil⟩
  | cons one code ih =>
    unfold lowerCode at ran ih
    rw [List.mapM_cons] at ran
    obtain ⟨first, ⟨middle, firstRecord, firstState⟩, head, afterHead⟩ := Action.bind_eq_ok.mp ran
    obtain ⟨rest, ⟨_, _, _⟩, tail, done⟩ := Action.bind_eq_ok.mp afterHead
    cases done
    obtain ⟨asked, rfl, derived⟩ := ih tail
    unfold lowerInstruction at head
    cases found : one.lambdaSite? metafactory with
    | none =>
      rw [found] at head
      cases head
      exact ⟨asked, rfl, .plain found derived⟩
    | some site =>
      rw [found] at head
      obtain ⟨factory, ⟨_, _, _⟩, served, called⟩ := Action.bind_eq_ok.mp head
      cases called
      obtain ⟨questions, rfl, site⟩ := SiteLowered.of_factoryFor served
      exact ⟨questions ++ asked, List.append_assoc _ _ _, .site found site derived⟩

theorem MethodsLowered.of_lowerMethods {taken : List MethodSignature}
    {methods lowered : List Method}
    (ran : lowerMethods services.recording metafactory host taken methods (pending, record, state) =
      .ok lowered (last, recordLast, stateLast)) :
    ∃ asked, recordLast = record ++ asked ∧
      MethodsLowered services.declared metafactory host pending methods lowered asked last := by
  induction methods generalizing taken pending record state lowered with
  | nil =>
    cases ran
    exact ⟨[], (List.append_nil _).symm, .nil⟩
  | cons method methods ih =>
    unfold lowerMethods at ran
    cases hook : method.header.isDeserializationHook with
    | true =>
      rw [Action.bind_of_ok (services.recording.keeps_hook hook pending (record, state))] at ran
      obtain ⟨asked, same, derived⟩ := ih ran
      exact ⟨asked, same, .dropped hook derived⟩
    | false =>
      rw [Action.bind_of_ok (services.recording.keeps_ordinary hook pending (record, state))] at ran
      simp only [↓reduceIte] at ran
      -- The test of the name asks nothing, so the record goes on from where it was.
      obtain ⟨_, ⟨_, _, _⟩, free, afterFree⟩ := Action.bind_eq_ok.mp ran
      obtain ⟨code, ⟨middle, bodyRecord, bodyState⟩, body, afterBody⟩ :=
        Action.bind_eq_ok.mp afterFree
      obtain ⟨rest, ⟨_, _, _⟩, tail, done⟩ := Action.bind_eq_ok.mp afterBody
      cases done
      cases (Action.ofExcept_eq_ok.mp free).2
      obtain ⟨questions, rfl, derivedBody⟩ := CodeLowered.of_lowerCode body
      obtain ⟨asked, rfl, derived⟩ := ih tail
      exact ⟨questions ++ asked, List.append_assoc _ _ _, .kept hook derivedBody derived⟩

theorem Config.startState_recording (config : Config) (services : Services S)
    (record : List Consultation) (state : S) :
    config.startState services.recording (record, state) =
      (record, config.startState services state) := by
  unfold startState
  split
  · have restart : services.recording.restartNumbering (record, state) =
        Action.onState (record, ·) (services.restartNumbering state) :=
      Action.onSnd_apply _ _ _
    unfold Services.restarted
    rw [restart]
    cases services.restartNumbering state <;> rfl
  · rfl

theorem MethodsLowered.of_lowerDirectly {config : Config} {file out : ClassFile}
    (ran : lowerDirectly config services.recording file ([], state) =
      .ok out (record, stateLast)) :
    ∃ methods pending,
      MethodsLowered services.declared config.metafactory (.ofHeader file.header) .empty
        file.methods methods record pending ∧
      out = ⟨file.header, methods ++ pending.entries.map (·.declaration Accessor.hostAccess)⟩ := by
  unfold lowerDirectly at ran
  rw [Action.bind_of_ok (Action.modify_apply _ _), config.startState_recording] at ran
  obtain ⟨⟨methods, pending⟩, ⟨_, _⟩, lowered, afterMethods⟩ := Action.bind_eq_ok.mp ran
  obtain ⟨_, ⟨_, _⟩, free, afterFree⟩ := Action.bind_eq_ok.mp afterMethods
  cases (Action.ofExcept_eq_ok.mp free).2
  cases afterFree
  obtain ⟨asked, rfl, derived⟩ :=
    MethodsLowered.of_lowerMethods (Action.withOwn_eq_ok.mp lowered)
  exact ⟨methods, pending, derived, rfl⟩

end Runs

end LambdaLowering
