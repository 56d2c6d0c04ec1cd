import LambdaLowering.ClassBuilder
import LambdaLowering.Proofs.ActionRuns
import LambdaLowering.Proofs.StreamGrammar

/-! The states of a builder, and the events that it accepts.

The fields of a builder could contradict each other: a method could be open between two methods, or
a class could lack its header. From its first state on a builder is in one of four forms in which
they agree, one for each phase, and it has five ways to go on.
-/

set_option autoImplicit false

namespace LambdaLowering

def OpenMethod.events (method : OpenMethod) : List Event :=
  .methodHeader method.header :: method.code.toList.map .instruction

namespace ClassBuilder

variable {builder next : ClassBuilder} {event : Event}

/-! ## Single events -/

theorem expect_bind (phase : StreamPhase) (event : Event) (next : Action ClassBuilder Bool)
    (builder : ClassBuilder) :
    (expect phase event >>= fun _ => next) builder =
      if builder.phase = phase then next builder
      else .error (.malformed (.outOfOrder event builder.phase)) builder := by
  have got : (get : Action ClassBuilder ClassBuilder) builder = .ok builder builder := rfl
  rw [expect, bind_assoc, Action.bind_of_ok got, ite_not]
  split <;> rfl

theorem declare_apply (signature : MethodSignature) (builder : ClassBuilder) :
    declare signature builder =
      if signature ∈ builder.declared then .ok false builder
      else .ok true { builder with declared := signature :: builder.declared } := by
  have declared : declare signature builder = .ok (!builder.declared.contains signature)
      { builder with declared := builder.declared.insert signature } := rfl
  rw [declared]
  split
  next taken => simp [taken]
  next free => simp [free]

theorem receive_classHeader (header : ClassHeader) (builder : ClassBuilder) :
    receive (.classHeader header) builder =
      if builder.phase = .initial then
        .ok true { builder with phase := .inClass, header := some header }
      else .error (.malformed (.outOfOrder (.classHeader header) builder.phase)) builder :=
  expect_bind ..

theorem receive_methodHeader (header : MethodHeader) (builder : ClassBuilder) :
    receive (.methodHeader header) builder =
      if builder.phase = .inClass then
        if header.signature ∈ builder.declared then
          .error (.malformed (.duplicateMethod header.signature)) builder
        else .ok true { builder with
          phase := .inMethod
          current := some ⟨header, #[]⟩
          declared := header.signature :: builder.declared }
      else .error (.malformed (.outOfOrder (.methodHeader header) builder.phase)) builder := by
  refine (expect_bind ..).trans ?_
  rw [Action.bind_apply, declare_apply]
  by_cases taken : header.signature ∈ builder.declared
  · simp only [taken, ↓reduceIte]
    rfl
  · simp only [taken, ↓reduceIte]
    rfl

theorem receive_instruction (one : Instruction) (builder : ClassBuilder) :
    receive (.instruction one) builder =
      if builder.phase = .inMethod then
        .ok true { builder with current := builder.current.map (·.push one) }
      else .error (.malformed (.outOfOrder (.instruction one) builder.phase)) builder := by
  refine (expect_bind ..).trans ?_
  obtain ⟨phase, header, methods, _ | current, declared⟩ := builder <;> rfl

theorem receive_methodEnd (builder : ClassBuilder) :
    receive .methodEnd builder =
      if builder.phase = .inMethod then
        .ok true { builder with
          phase := .inClass
          methods := builder.methods ++ (builder.current.map (·.close)).toArray
          current := none }
      else .error (.malformed (.outOfOrder .methodEnd builder.phase)) builder := by
  refine (expect_bind ..).trans ?_
  obtain ⟨phase, header, methods, _ | current, declared⟩ := builder
  · rfl
  · rfl

theorem receive_classEnd (builder : ClassBuilder) :
    receive .classEnd builder =
      if builder.phase = .inClass then .ok true { builder with phase := .finished }
      else .error (.malformed (.outOfOrder .classEnd builder.phase)) builder :=
  expect_bind ..

def step (builder : ClassBuilder) (event : Event) : Except Error ClassBuilder :=
  match receive event builder with
  | .ok _ next => .ok next
  | .error error _ => .error error

/-- An event that is refused leaves every field of the builder as it was, in any state. -/
theorem receive_eq_step (builder : ClassBuilder) (event : Event) :
    receive event builder =
      match builder.step event with
      | .ok next => .ok true next
      | .error error => .error error builder := by
  unfold step
  cases event with
  | classHeader header =>
    rw [receive_classHeader]
    split <;> rfl
  | methodHeader header =>
    rw [receive_methodHeader]
    split
    · split <;> rfl
    · rfl
  | instruction one =>
    rw [receive_instruction]
    split <;> rfl
  | methodEnd =>
    rw [receive_methodEnd]
    split <;> rfl
  | classEnd =>
    rw [receive_classEnd]
    split <;> rfl

/-! ## Forms -/

def inClass (header : ClassHeader) (methods : Array Method) : ClassBuilder where
  phase := .inClass
  header := some header
  methods := methods
  declared := (methods.toList.map Method.signature).reverse

def inMethod (header : ClassHeader) (methods : Array Method) (current : MethodHeader)
    (code : Array Instruction) : ClassBuilder where
  phase := .inMethod
  header := some header
  methods := methods
  current := some ⟨current, code⟩
  declared := current.signature :: (methods.toList.map Method.signature).reverse

def finished (file : ClassFile) : ClassBuilder where
  phase := .finished
  header := some file.header
  methods := file.methods.toArray
  declared := (file.methods.map Method.signature).reverse

section Fields

variable (header : ClassHeader) (methods : Array Method) (current : MethodHeader)
variable (code : Array Instruction) (file : ClassFile)

@[simp] theorem phase_initial : initial.phase = .initial := rfl

@[simp] theorem phase_inClass : (inClass header methods).phase = .inClass := rfl

@[simp] theorem phase_inMethod : (inMethod header methods current code).phase = .inMethod := rfl

@[simp] theorem phase_finished : (finished file).phase = .finished := rfl

@[simp] theorem methods_inClass : (inClass header methods).methods = methods := rfl

@[simp] theorem declared_inClass :
    (inClass header methods).declared = (methods.toList.map Method.signature).reverse := rfl

@[simp] theorem declared_inMethod : (inMethod header methods current code).declared =
    current.signature :: (methods.toList.map Method.signature).reverse := rfl

end Fields

/-- The invariant of a builder: its fields agree with its phase. -/
inductive Consistent : ClassBuilder → Prop
  | initial : Consistent .initial
  | inClass (header : ClassHeader) (methods : Array Method) : Consistent (.inClass header methods)
  | inMethod (header : ClassHeader) (methods : Array Method) (current : MethodHeader)
      (code : Array Instruction) : Consistent (.inMethod header methods current code)
  | finished (file : ClassFile) : Consistent (.finished file)

/-- The ways to go on. -/
inductive Accepts : ClassBuilder → Event → ClassBuilder → Prop
  | classHeader (header : ClassHeader) :
    Accepts .initial (.classHeader header) (.inClass header #[])
  | methodHeader {header : ClassHeader} {methods : Array Method} {current : MethodHeader}
      (free : current.signature ∉ methods.toList.map Method.signature) :
    Accepts (.inClass header methods) (.methodHeader current) (.inMethod header methods current #[])
  | instruction (header : ClassHeader) (methods : Array Method) (current : MethodHeader)
      (code : Array Instruction) (one : Instruction) :
    Accepts (.inMethod header methods current code) (.instruction one)
      (.inMethod header methods current (code.push one))
  | methodEnd (header : ClassHeader) (methods : Array Method) (current : MethodHeader)
      (code : Array Instruction) :
    Accepts (.inMethod header methods current code) .methodEnd
      (.inClass header (methods.push ⟨current, code.toList⟩))
  | classEnd (header : ClassHeader) (methods : Array Method) :
    Accepts (.inClass header methods) .classEnd (.finished ⟨header, methods.toList⟩)

theorem Accepts.step_eq (accepts : Accepts builder event next) : builder.step event = .ok next := by
  cases accepts with
  | classHeader header => rfl
  | @methodHeader header methods current free =>
    have new : current.signature ∉ (inClass header methods).declared := by simpa using free
    rw [step, receive_methodHeader, if_pos (phase_inClass ..), if_neg new]
    rfl
  | instruction header methods current code one => rfl
  | methodEnd header methods current code =>
    rw [step, receive_methodEnd, if_pos (phase_inMethod ..)]
    simp [inClass, inMethod, OpenMethod.close, Method.signature]
  | classEnd header methods => rfl

theorem Accepts.of_step {other : ClassBuilder} (accepts : Accepts builder event other)
    (accepted : builder.step event = .ok next) : Accepts builder event next := by
  cases accepted.symm.trans accepts.step_eq
  exact accepts

theorem Consistent.accepts (consistent : builder.Consistent)
    (accepted : builder.step event = .ok next) : Accepts builder event next := by
  -- All but five of the cases are events out of turn.
  cases consistent <;> cases event
  case initial.classHeader header =>
    exact Accepts.of_step (.classHeader header) accepted
  case inClass.methodHeader header methods current =>
    by_cases free : current.signature ∈ methods.toList.map Method.signature
    · have taken : current.signature ∈ (ClassBuilder.inClass header methods).declared := by
        simpa using free
      rw [step, receive_methodHeader, if_pos (phase_inClass ..), if_pos taken] at accepted
      cases accepted
    · exact Accepts.of_step (.methodHeader free) accepted
  case inClass.classEnd header methods =>
    exact Accepts.of_step (.classEnd header methods) accepted
  case inMethod.instruction header methods current code one =>
    exact Accepts.of_step (.instruction header methods current code one) accepted
  case inMethod.methodEnd header methods current code =>
    exact Accepts.of_step (.methodEnd header methods current code) accepted
  all_goals cases accepted

theorem Accepts.consistent (accepts : Accepts builder event next) : next.Consistent := by
  cases accepts with
  | classHeader header => exact .inClass header #[]
  | methodHeader free => exact .inMethod _ _ _ _
  | instruction header methods current code one => exact .inMethod _ _ _ _
  | methodEnd header methods current code => exact .inClass _ _
  | classEnd header methods => exact .finished _

/-! ## What a builder holds -/

/-- The events that the fields amount to. -/
def events (builder : ClassBuilder) : List Event :=
  builder.header.toList.map .classHeader ++ builder.methods.toList.flatMap Method.events ++
    builder.current.toList.flatMap OpenMethod.events ++
    if builder.phase = .finished then [.classEnd] else []

theorem events_inClass (header : ClassHeader) (methods : Array Method) :
    (inClass header methods).events =
      .classHeader header :: methods.toList.flatMap Method.events := by
  simp [events, inClass]

theorem events_inMethod (header : ClassHeader) (methods : Array Method) (current : MethodHeader)
    (code : Array Instruction) :
    (inMethod header methods current code).events =
      .classHeader header :: (methods.toList.flatMap Method.events ++
        .methodHeader current :: code.toList.map .instruction) := by
  simp [events, inMethod, OpenMethod.events]

theorem events_finished (file : ClassFile) : (finished file).events = file.events := by
  simp [events, finished, ClassFile.events]

theorem Accepts.events_eq (accepts : Accepts builder event next) :
    next.events = builder.events ++ [event] := by
  cases accepts with
  | classHeader header => rfl
  | methodHeader free => simp [events_inClass, events_inMethod]
  | instruction header methods current code one => simp [events_inMethod]
  | methodEnd header methods current code => simp [events_inClass, events_inMethod, Method.events]
  | classEnd header methods => simp [events_inClass, events_finished, ClassFile.events]

theorem Accepts.declared_eq (accepts : Accepts builder event next) :
    next.declared = event.declared?.toList ++ builder.declared := by
  cases accepts with
  | methodEnd header methods current code => simp [Event.declared?, Method.signature]
  | _ => rfl

theorem Accepts.nodup_declared (accepts : Accepts builder event next)
    (distinct : builder.declared.Nodup) : next.declared.Nodup := by
  rw [accepts.declared_eq]
  cases accepts with
  -- Only a method header declares a signature, and it is accepted if that one is new.
  | @methodHeader header methods current free =>
    have new : current.signature ∉ (inClass header methods).declared := by simpa using free
    exact List.nodup_cons.mpr ⟨new, distinct⟩
  | _ => exact distinct

theorem Consistent.reverse_declared (consistent : builder.Consistent) :
    builder.declared.reverse = declaredIn builder.events := by
  cases consistent with
  | initial => rfl
  | inClass header methods =>
    have closed := declaredIn_methods methods.toList
    rw [events_inClass]
    exact (List.reverse_reverse _).trans closed.symm
  | inMethod header methods current code =>
    have closed := declaredIn_methods methods.toList
    have opened : declaredIn (.methodHeader current :: code.toList.map .instruction) =
        [current.signature] := congrArg (current.signature :: ·) (declaredIn_code code.toList)
    rw [events_inMethod, ← List.singleton_append, declaredIn_append, declaredIn_append, closed,
      opened]
    simp [declaredIn, Event.declared?]
  | finished file =>
    rw [events_finished, declaredIn_events]
    exact List.reverse_reverse _

/-- What keeps a builder from accepting an event: the phase, or a method that it already has. -/
theorem step_ok_iff :
    (∃ next, builder.step event = .ok next) ↔
      (builder.phase.next? event).isSome ∧
        ∀ signature ∈ event.declared?, signature ∉ builder.declared := by
  -- Phase by phase; nothing is assumed of how the other fields agree with it.
  obtain ⟨phase, header, methods, current, declared⟩ := builder
  cases event with
  | classHeader header =>
    cases phase <;> simp [step, receive_classHeader, StreamPhase.next?, Event.declared?]
  | methodHeader header =>
    by_cases taken : header.signature ∈ declared <;>
      cases phase <;> simp [step, receive_methodHeader, StreamPhase.next?, Event.declared?, taken]
  | instruction one =>
    cases phase <;> simp [step, receive_instruction, StreamPhase.next?, Event.declared?]
  | methodEnd => cases phase <;> simp [step, receive_methodEnd, StreamPhase.next?, Event.declared?]
  | classEnd => cases phase <;> simp [step, receive_classEnd, StreamPhase.next?, Event.declared?]

theorem step_eq_error {error : Error} (refused : builder.step event = .error error) :
    ∃ cause, error = .malformed cause := by
  cases event <;>
    simp only [step, receive_classHeader, receive_methodHeader, receive_instruction,
      receive_methodEnd, receive_classEnd] at refused
  all_goals
    split_ifs at refused <;> cases refused <;> exact ⟨_, rfl⟩

theorem finish_eq_ok_iff (consistent : builder.Consistent) {file : ClassFile} :
    builder.finish = .ok file ↔ builder = .finished file := by
  constructor
  · intro ended
    cases consistent with
    | finished other =>
      cases ended
      rfl
    | _ => cases ended
  · rintro rfl
    rfl

/-! ## The builder as a consumer -/

variable {S : Type} {state last : S} {kept : Bool}

theorem receive_of_accepts (accepts : Accepts builder event next) (state : S) :
    sink.receive event (builder, state) = .ok true (next, state) := by
  simp only [sink, receive_eq_step, accepts.step_eq]

theorem receive_of_error {error : Error} (refused : builder.step event = .error error) (state : S) :
    sink.receive event (builder, state) = .error error (builder, state) := by
  simp only [sink, receive_eq_step, refused]

theorem receive_eq_ok (ran : sink.receive event (builder, state) = .ok kept (next, last)) :
    builder.step event = .ok next ∧ last = state := by
  simp only [sink, receive_eq_step] at ran
  cases stepped : builder.step event with
  | error error =>
    rw [stepped] at ran
    cases ran
  | ok reached =>
    rw [stepped] at ran
    cases ran
    exact ⟨rfl, rfl⟩

theorem send_of_accepts (accepts : Accepts builder event next) (state : S) :
    sink.send event (builder, state) = .ok () (next, state) :=
  Action.bind_of_ok (receive_of_accepts accepts state) _

theorem send_eq_ok (ran : sink.send event (builder, state) = .ok () (next, last)) :
    builder.step event = .ok next ∧ last = state := by
  obtain ⟨kept, ⟨_, _⟩, received, done⟩ := Action.bind_eq_ok.mp ran
  cases done
  exact receive_eq_ok received

end ClassBuilder

end LambdaLowering
