import LambdaLowering.Proofs.StreamedLowering

/-! The lowering of a class as a session with its collaborators.

A session is a tree of calls. It says what is asked next, given all answers so far, and leaves open
who answers, so that several sessions can take turns with the same collaborators. Run on its own,
the session of a class is the lowering of the class.
-/

set_option autoImplicit false

namespace LambdaLowering

variable {S T α β : Type}

inductive Call where
  | load (name : String)
  | reify (request : LambdaRequest)
  | restart
  | report (entry : LogRecord)

def Call.Answer : Call → Type
  | .load _ => Except Error LoadedClass
  | .reify _ => Except Error Factory
  | .restart => Except Error Unit
  | .report _ => Unit

def Services.answer (services : Services S) : (call : Call) → S → call.Answer × S
  | .load name, state =>
    (Action.answerOf (services.load name state), Action.stateAfter (services.load name state))
  | .reify request, state =>
    (Action.answerOf (services.reify request state),
      Action.stateAfter (services.reify request state))
  | .restart, state =>
    (Action.answerOf (services.restartNumbering state),
      Action.stateAfter (services.restartNumbering state))
  | .report entry, state => ((), services.log entry state)

/-- A computation that does nothing but call its collaborators. -/
inductive Session (α : Type) where
  | done (value : α)
  | stopped (error : Error)
  | asks (call : Call) (next : call.Answer → Session α)

namespace Session

def bind : Session α → (α → Session β) → Session β
  | .done value, rest => rest value
  | .stopped error, _ => .stopped error
  | .asks call next, rest => .asks call fun answer => (next answer).bind rest

instance : Monad Session where
  pure := .done
  bind := bind

def ofExcept : Except Error α → Session α
  | .ok value => .done value
  | .error error => .stopped error

def load (name : String) : Session LoadedClass := .asks (.load name) ofExcept

def reify (request : LambdaRequest) : Session Factory := .asks (.reify request) ofExcept

def report (entry : LogRecord) : Session Unit := .asks (.report entry) .done

def tryRestart : Session Unit := .asks .restart fun
  | .ok _ => .done ()
  | .error error => report (.restartFailed error)

def run (services : Services S) : Session α → Action S α
  | .done value => pure value
  | .stopped error => throw error
  | .asks call next => fun state =>
    (next (services.answer call state).1).run services (services.answer call state).2

/-! ## The session of a class -/

section Lowering

variable (declared : Declarations) (metafactory : String) (host : HostClass)

def resolve (target : MethodRef) (pending : PendingAccessors) :
    Session (MethodRef × PendingAccessors) :=
  match pending.next? declared host target with
  | .error error => .stopped error
  | .ok none => return (target, pending)
  | .ok (some accessor) => do
    report (.accessorPlanned accessor)
    return (accessor.method, pending.push accessor)

def factoryFor (site : CallSite) (pending : PendingAccessors) :
    Session (Factory × PendingAccessors) := do
  let invoker ← load host.name
  match site.implementation? with
  | none => .stopped (.malformed (.missingImplementation site host.name))
  | some implementation =>
    let (callee, pending) ← resolve declared host implementation pending
    let factory ← reify (site.request invoker implementation callee)
    report (.callSiteLowered host implementation factory)
    return (factory, pending)

def lowerInstruction (one : Instruction) (pending : PendingAccessors) :
    Session (Instruction × PendingAccessors) :=
  match one.lambdaSite? metafactory with
  | none => return (one, pending)
  | some site => do
    let (factory, pending) ← factoryFor declared host site pending
    return (factory.call, pending)

def lowerCode : List Instruction → PendingAccessors →
    Session (List Instruction × PendingAccessors)
  | [], pending => return ([], pending)
  | one :: code, pending => do
    let (first, pending) ← lowerInstruction declared metafactory host one pending
    let (rest, pending) ← lowerCode code pending
    return (first :: rest, pending)

def lowerMethods : List MethodSignature → List Method → PendingAccessors →
    Session (List Method × PendingAccessors)
  | _, [], pending => return ([], pending)
  | taken, method :: methods, pending =>
    if method.header.isDeserializationHook then do
      report (.hookDropped method.header.signature)
      lowerMethods taken methods pending
    else do
      ofExcept (demandFree taken method.signature)
      let (code, pending) ← lowerCode declared metafactory host method.code pending
      let (rest, pending) ← lowerMethods (taken ++ [method.signature]) methods pending
      return (⟨method.header, code⟩ :: rest, pending)

end Lowering

def start (config : Config) : Session Unit :=
  if config.restartNumbering then tryRestart else return ()

def lowerClass (config : Config) (declared : Declarations) (file : ClassFile) :
    Session ClassFile := do
  start config
  let host := HostClass.ofHeader file.header
  let (methods, pending) ← lowerMethods declared config.metafactory host [] file.methods .empty
  let accessors := pending.entries.map (·.declaration Accessor.hostAccess)
  ofExcept (demandAllFree (methods.map Method.signature) (accessors.map Method.signature))
  report (.classFinished host (file.stats config.metafactory accessors.length))
  return ⟨file.header, methods ++ accessors⟩

end Session

/-! ## Sessions run on their own -/

namespace Action

theorem withOwn_bind (first : Action (T × S) α) (next : α → Action (T × S) β) (own : T) :
    (first >>= next).withOwn own =
      first.withOwn own >>= fun reached => (next reached.1).withOwn reached.2 := by
  funext state
  rw [bind_apply, withOwn, withOwn, bind_apply]
  cases first (own, state) <;> rfl

theorem withOwn_onSnd (action : Action S α) (own : T) :
    action.onSnd.withOwn own = action >>= fun value => pure (value, own) := by
  funext state
  rw [bind_apply, withOwn, onSnd_apply]
  cases action state <;> rfl

theorem withOwn_ofExcept (outcome : Except Error α) (own : T) :
    (ofExcept outcome : Action (T × S) α).withOwn own =
      ofExcept outcome >>= fun value => pure (value, own) := by
  cases outcome <;> rfl

end Action

namespace Session

variable (services : Services S)

theorem run_bind (session : Session α) (rest : α → Session β) :
    (session >>= rest).run services =
      session.run services >>= fun value => (rest value).run services := by
  induction session with
  | done value => rfl
  | stopped error => rfl
  | asks call next ih =>
    funext state
    change ((next (services.answer call state).1 >>= rest).run services) _ = _
    rw [ih]
    rfl

theorem run_ofExcept (outcome : Except Error α) :
    (ofExcept outcome).run services = Action.ofExcept outcome := by
  cases outcome <;> rfl

theorem run_ofExcept_answerOf (action : Action S α) (state : S) :
    (ofExcept (Action.answerOf (action state))).run services (Action.stateAfter (action state)) =
      action state := by
  rw [run_ofExcept]
  cases action state <;> rfl

theorem run_load (name : String) : (load name).run services = services.load name := by
  funext state
  exact run_ofExcept_answerOf services (services.load name) state

theorem run_reify (request : LambdaRequest) :
    (reify request).run services = services.reify request := by
  funext state
  exact run_ofExcept_answerOf services (services.reify request) state

theorem run_report (entry : LogRecord) : (report entry).run services = services.report entry := rfl

theorem run_tryRestart : tryRestart.run services = services.tryRestartNumbering := by
  funext state
  rw [services.tryRestartNumbering_apply, Services.restarted]
  cases ran : services.restartNumbering state with
  | ok _ reached => simp [tryRestart, run, Services.answer, ran, Action.answerOf, Action.stateAfter]
  | error error reached =>
    simp [tryRestart, run, Services.answer, ran, Action.answerOf, Action.stateAfter, report]

variable (metafactory : String) (host : HostClass) (pending : PendingAccessors)

theorem run_resolve (target : MethodRef) :
    (resolve services.declared host target pending).run services =
      (services.resolve host target).withOwn pending := by
  funext state
  -- What is pending is an answer of the session and a state of the action.
  unfold resolve Services.resolve Action.withOwn
  cases found : pending.next? services.declared host target with
  | error error => simp only [found]; rfl
  | ok next =>
    cases next with
    | none => simp only [found]; rfl
    | some accessor => simp only [found]; rfl

theorem run_factoryFor (site : CallSite) :
    (factoryFor services.declared host site pending).run services =
      (services.factoryFor host site).withOwn pending := by
  unfold factoryFor Services.factoryFor
  rw [run_bind, run_load, Action.withOwn_bind, Action.withOwn_onSnd, bind_assoc]
  congr 1
  funext invoker
  rw [pure_bind]
  cases site.implementation? with
  | none => rfl
  | some implementation =>
    -- The rest is the same calls in the same order.
    simp only [run_bind, run_resolve, run_reify, run_report, Action.withOwn_bind,
      Action.withOwn_onSnd, bind_assoc, pure_bind]
    rfl

theorem run_lowerInstruction (one : Instruction) :
    (lowerInstruction services.declared metafactory host one pending).run services =
      (LambdaLowering.lowerInstruction services metafactory host one).withOwn pending := by
  unfold lowerInstruction LambdaLowering.lowerInstruction
  cases one.lambdaSite? metafactory with
  | none => rfl
  | some site =>
    rw [run_bind, run_factoryFor, Action.withOwn_bind]
    rfl

theorem run_lowerCode (code : List Instruction) :
    (lowerCode services.declared metafactory host code pending).run services =
      (LambdaLowering.lowerCode services metafactory host code).withOwn pending := by
  induction code generalizing pending with
  | nil => rfl
  | cons one code ih =>
    unfold LambdaLowering.lowerCode at ih ⊢
    rw [List.mapM_cons, lowerCode]
    simp only [run_bind, run_lowerInstruction, ih, Action.withOwn_bind]
    rfl

theorem run_lowerMethods (taken : List MethodSignature) (methods : List Method) :
    (lowerMethods services.declared metafactory host taken methods pending).run services =
      (LambdaLowering.lowerMethods services metafactory host taken methods).withOwn pending := by
  induction methods generalizing taken pending with
  | nil => rfl
  | cons method methods ih =>
    unfold lowerMethods LambdaLowering.lowerMethods Services.keeps
    rw [Action.withOwn_bind, Action.withOwn_onSnd]
    cases method.header.isDeserializationHook with
    | true =>
      simp only [↓reduceIte, run_bind, run_report, ih, bind_assoc, pure_bind, Bool.false_eq_true]
    | false =>
      simp only [↓reduceIte, run_bind, run_ofExcept, run_lowerCode, ih, bind_assoc, pure_bind,
        Bool.false_eq_true, Action.withOwn_bind, Action.withOwn_ofExcept]
      rfl

theorem run_start (config : Config) :
    (start config).run services = modify (config.startState services) := by
  funext state
  rw [Action.modify_apply]
  unfold start Config.startState
  split
  · rw [run_tryRestart, services.tryRestartNumbering_apply]
  · rfl

/-- The session of a class, run on its own, is the lowering of the class. -/
theorem run_lowerClass (config : Config) (file : ClassFile) :
    (lowerClass config services.declared file).run services =
      LambdaLowering.lowerClass config services file := by
  funext state
  rw [lowerClass_eq_lowerDirectly]
  simp only [lowerClass, run_bind, run_start, run_lowerMethods, run_ofExcept, run_report]
  rfl

end Session

end LambdaLowering
