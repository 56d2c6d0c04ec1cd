import LambdaLowering.Proofs.LoweredClass

/-! A class that is lowered on its way to a consumer, and the lowered class streamed to it.

A consumer that keeps all methods cannot tell the two apart, even if it fails: it receives the same
events and is left in the same state. The lowering in front of the consumer is followed beside the
replay of what the direct lowering has made.
-/

set_option autoImplicit false

namespace LambdaLowering

variable {S C α β : Type}

namespace Action

def onFst (action : Action C α) : Action (C × S) α := fun (inner, behind) =>
  onState (·, behind) (action inner)

theorem onFst_apply (action : Action C α) (inner : C) (behind : S) :
    action.onFst (inner, behind) = onState (·, behind) (action inner) := rfl

theorem onFst_bind (first : Action C α) (next : α → Action C β) :
    ((first >>= next).onFst : Action (C × S) β) =
      first.onFst >>= fun value => (next value).onFst := by
  funext ⟨inner, behind⟩
  rw [bind_apply, onFst_apply, onFst_apply, bind_apply]
  cases first inner <;> rfl

theorem onFst_forM (pass : α → Action C Unit) (values : List α) :
    ((values.forM pass).onFst : Action (C × S) Unit) =
      values.forM fun value => (pass value).onFst := by
  induction values with
  | nil => rfl
  | cons value values ih => rw [forM_cons, forM_cons, onFst_bind, ih]

end Action

namespace Sink

/-- The consumer keeps each method on whose header it does not fail. -/
def KeepsMethods (consumer : Sink C) : Prop :=
  ∀ header state kept after,
    consumer.receive (.methodHeader header) state = .ok kept after → kept = true

def onFst (consumer : Sink C) : Sink (C × S) := ⟨fun event => (consumer.receive event).onFst⟩

/-- The same consumer, which also writes down all that it receives. -/
def logging (consumer : Sink C) : Sink (List Event × C) := ⟨fun event (log, state) =>
  Action.onState (log ++ [event], ·) (consumer.receive event state)⟩

theorem KeepsMethods.logging {consumer : Sink C} (keeps : consumer.KeepsMethods) :
    consumer.logging.KeepsMethods := by
  intro header ⟨log, state⟩ kept after received
  obtain ⟨reached, answer, _⟩ := Action.onState_eq_ok.mp received
  exact keeps header state kept reached answer

theorem send_onFst (consumer : Sink C) (event : Event) :
    (consumer.onFst.send event : Action (C × S) Unit) = (consumer.send event).onFst := by
  rw [ClassLowering.send_eq, ClassLowering.send_eq, Action.onFst_bind]
  rfl

end Sink

theorem Method.streamTo_onFst (method : Method) (consumer : Sink C) :
    (method.streamTo consumer.onFst : Action (C × S) Unit) = (method.streamTo consumer).onFst := by
  unfold Method.streamTo
  rw [Action.onFst_bind]
  congr 1
  funext kept
  cases kept with
  | false => rfl
  | true =>
    simp only [↓reduceIte, Sink.send_onFst, Action.onFst_bind, Action.onFst_forM]

/-! ## Following a replay -/

/-- A lowering in front of a consumer and the consumer alone have done the same to the consumer. -/
def SameConsumer (streaming : ClassLowering × C × S) (consumed : C) : Prop :=
  streaming.2.1 = consumed

def WithinMethod (host : HostClass) (pending : PendingAccessors) (state : S)
    (streaming : ClassLowering × C × S) (consumed : C) : Prop :=
  ∃ replaced stats, streaming = (⟨some host, pending, some replaced, stats⟩, consumed, state)

def BetweenMethods (host : HostClass) (pending : PendingAccessors) (state : S)
    (streaming : ClassLowering × C × S) (consumed : C) : Prop :=
  ∃ stats, streaming = (⟨some host, pending, none, stats⟩, consumed, state)

section Following

variable {config : Config} {services : Services S} {host : HostClass} {consumer : Sink C}
variable {pending last : PendingAccessors} {state stateLast : S}
variable {streaming : ClassLowering × C × S} {consumed : C}

theorem send_instruction_follows {one lowered : Instruction}
    (ran : lowerInstruction services config.metafactory host one (pending, state) =
      .ok lowered (last, stateLast))
    (within : WithinMethod host pending state streaming consumed) :
    Agree (fun _ streaming _ consumed => WithinMethod host last stateLast streaming consumed)
      SameConsumer
      ((ClassLowering.sink config services.onSnd consumer.onFst).send (.instruction one) streaming)
      (consumer.send (.instruction lowered) consumed) := by
  obtain ⟨replaced, stats, rfl⟩ := within
  unfold lowerInstruction at ran
  cases found : one.lambdaSite? config.metafactory with
  | none =>
    rw [found] at ran
    cases ran
    rw [ClassLowering.send_instruction_plain config _ _ rfl rfl found, Sink.send_onFst,
      Action.onFst_apply]
    cases consumer.send (.instruction one) consumed with
    | ok _ reached => exact .ok ⟨replaced, stats, rfl⟩
    | error error reached => exact .error rfl
  | some site =>
    rw [found] at ran
    obtain ⟨factory, ⟨_, _⟩, served, called⟩ := Action.bind_eq_ok.mp ran
    cases called
    rw [ClassLowering.send_instruction_site config _ _ rfl rfl found, Services.factoryFor_onSnd,
      served]
    simp only [Action.onState_ok, Sink.send_onFst, Action.onFst_apply]
    cases consumer.send (.instruction factory.call) consumed with
    | ok _ reached => exact .ok ⟨replaced + 1, stats, rfl⟩
    | error error reached => exact .error rfl

theorem forM_instructions_follow {code lowered : List Instruction}
    (ran : lowerCode services config.metafactory host code (pending, state) =
      .ok lowered (last, stateLast))
    (within : WithinMethod host pending state streaming consumed) :
    Agree (fun _ streaming _ consumed => WithinMethod host last stateLast streaming consumed)
      SameConsumer
      (code.forM (fun one => (ClassLowering.sink config services.onSnd consumer.onFst).send
        (.instruction one)) streaming)
      (lowered.forM (fun one => consumer.send (.instruction one)) consumed) := by
  induction code generalizing pending state lowered streaming consumed with
  | nil =>
    cases ran
    exact .ok within
  | cons one code ih =>
    unfold lowerCode at ran ih
    rw [List.mapM_cons] at ran
    obtain ⟨first, ⟨_, _⟩, head, afterHead⟩ := Action.bind_eq_ok.mp ran
    obtain ⟨rest, ⟨_, _⟩, tail, done⟩ := Action.bind_eq_ok.mp afterHead
    cases done
    rw [Action.forM_cons, Action.forM_cons]
    apply (send_instruction_follows head within).bind
    intro _ _ _ _ within
    exact ih tail within

theorem open_follows (keeps : consumer.KeepsMethods) {header : MethodHeader}
    (stays : header.isDeserializationHook = false)
    (between : BetweenMethods host pending state streaming consumed) :
    Agree (fun kept streaming other consumed =>
        kept = true ∧ other = true ∧ WithinMethod host pending state streaming consumed)
      SameConsumer
      ((ClassLowering.sink config services.onSnd consumer.onFst).receive (.methodHeader header)
        streaming)
      (consumer.receive (.methodHeader header) consumed) := by
  obtain ⟨stats, rfl⟩ := between
  have passed : consumer.onFst.receive (.methodHeader header) (consumed, state) =
      Action.onState (·, state) (consumer.receive (.methodHeader header) consumed) := rfl
  rw [ClassLowering.receive_methodHeader_kept _ _ _ stays, passed]
  cases answer : consumer.receive (.methodHeader header) consumed with
  | error error reached => exact .error rfl
  | ok kept reached =>
    cases keeps _ _ _ _ answer
    exact .ok ⟨rfl, rfl, 0, stats, rfl⟩

theorem send_methodEnd_follows (within : WithinMethod host pending state streaming consumed) :
    Agree (fun _ streaming _ consumed => BetweenMethods host pending state streaming consumed)
      SameConsumer
      ((ClassLowering.sink config services.onSnd consumer.onFst).send .methodEnd streaming)
      (consumer.send .methodEnd consumed) := by
  obtain ⟨replaced, stats, rfl⟩ := within
  rw [ClassLowering.send_methodEnd, Sink.send_onFst, Action.onFst_apply]
  cases consumer.send .methodEnd consumed with
  | ok _ reached => exact .ok ⟨_, rfl⟩
  | error error reached => exact .error rfl

theorem streamTo_follows (keeps : consumer.KeepsMethods) {method : Method}
    {code : List Instruction} (stays : method.header.isDeserializationHook = false)
    (ran : lowerCode services config.metafactory host method.code (pending, state) =
      .ok code (last, stateLast))
    (between : BetweenMethods host pending state streaming consumed) :
    Agree (fun _ streaming _ consumed => BetweenMethods host last stateLast streaming consumed)
      SameConsumer
      (method.streamTo (ClassLowering.sink config services.onSnd consumer.onFst) streaming)
      ((⟨method.header, code⟩ : Method).streamTo consumer consumed) := by
  unfold Method.streamTo
  apply (open_follows keeps stays between).bind
  rintro _ _ _ _ ⟨rfl, rfl, within⟩
  simp only [↓reduceIte]
  apply (forM_instructions_follow ran within).bind
  intro _ _ _ _ within
  exact send_methodEnd_follows within

theorem forM_streamTo_follows (keeps : consumer.KeepsMethods) {taken : List MethodSignature}
    {methods lowered : List Method}
    (ran : lowerMethods services config.metafactory host taken methods (pending, state) =
      .ok lowered (last, stateLast))
    (between : BetweenMethods host pending state streaming consumed) :
    Agree (fun _ streaming _ consumed => BetweenMethods host last stateLast streaming consumed)
      SameConsumer
      (methods.forM (·.streamTo (ClassLowering.sink config services.onSnd consumer.onFst))
        streaming)
      (lowered.forM (·.streamTo consumer) consumed) := by
  induction methods generalizing taken pending state lowered streaming consumed with
  | nil =>
    cases ran
    exact .ok between
  | cons method methods ih =>
    rw [Action.forM_cons]
    unfold lowerMethods at ran
    cases hook : method.header.isDeserializationHook with
    | true =>
      -- The consumer hears nothing of the hook, so the replay has not moved.
      obtain ⟨stats, rfl⟩ := between
      rw [Action.bind_of_ok (services.keeps_hook hook pending state)] at ran
      rw [Action.bind_of_ok (ClassLowering.streamTo_hook config services.onSnd _ hook _ _)]
      exact ih ran ⟨_, rfl⟩
    | false =>
      rw [Action.bind_of_ok (services.keeps_ordinary hook pending state)] at ran
      simp only [↓reduceIte] at ran
      obtain ⟨_, ⟨_, _⟩, free, afterFree⟩ := Action.bind_eq_ok.mp ran
      obtain ⟨code, ⟨_, _⟩, body, afterBody⟩ := Action.bind_eq_ok.mp afterFree
      obtain ⟨rest, ⟨_, _⟩, tail, done⟩ := Action.bind_eq_ok.mp afterBody
      cases (Action.ofExcept_eq_ok.mp free).2
      cases done
      rw [Action.forM_cons]
      apply (streamTo_follows keeps hook body between).bind
      intro _ _ _ _ between
      exact ih tail between

/-! ## Class end -/

theorem declare_follows (accessor : Accessor)
    (between : BetweenMethods host pending state streaming consumed) :
    Agree (fun _ streaming _ consumed => BetweenMethods host pending state streaming consumed)
      SameConsumer
      (ClassLowering.declare consumer.onFst accessor streaming)
      ((accessor.declaration Accessor.hostAccess).streamTo consumer consumed) := by
  obtain ⟨stats, rfl⟩ := between
  unfold ClassLowering.declare
  rw [Action.bind_apply, Action.onSnd_apply, Method.streamTo_onFst, Action.onFst_apply]
  cases (accessor.declaration Accessor.hostAccess).streamTo consumer consumed with
  | ok _ reached => exact .ok ⟨_, rfl⟩
  | error error reached => exact .error rfl

theorem forM_declare_follows (accessors : List Accessor)
    (between : BetweenMethods host pending state streaming consumed) :
    Agree (fun _ streaming _ consumed => BetweenMethods host pending state streaming consumed)
      SameConsumer
      (accessors.forM (ClassLowering.declare consumer.onFst) streaming)
      ((accessors.map (·.declaration Accessor.hostAccess)).forM (·.streamTo consumer)
        consumed) := by
  induction accessors generalizing streaming consumed with
  | nil => exact .ok between
  | cons accessor accessors ih =>
    rw [List.map_cons, Action.forM_cons, Action.forM_cons]
    apply (declare_follows accessor between).bind
    intro _ _ _ _ between
    exact ih between

theorem send_classEnd_follows (between : BetweenMethods host pending state streaming consumed) :
    Agree (fun _ streaming _ consumed => SameConsumer streaming consumed) SameConsumer
      ((ClassLowering.sink config services.onSnd consumer.onFst).send .classEnd streaming)
      ((do
        (pending.entries.map (·.declaration Accessor.hostAccess)).forM (·.streamTo consumer)
        consumer.send .classEnd : Action C Unit) consumed) := by
  obtain ⟨stats, rfl⟩ := between
  rw [ClassLowering.send_classEnd]
  apply (forM_declare_follows pending.entries ⟨stats, rfl⟩).bind
  rintro _ _ _ consumed ⟨stats, rfl⟩
  -- The report changes only what the collaborators know.
  rw [Action.bind_apply, ClassLowering.conclude_apply, ClassLowering.send_eq, Action.bind_apply]
  simp only [Sink.onFst, Services.onSnd, Action.onFst_apply]
  cases consumer.receive .classEnd consumed with
  | ok _ reached => exact .ok rfl
  | error error reached => exact .error rfl

end Following

/-! ## Whole classes -/

theorem streamTo_sink_follows {config : Config} {services : Services S} {file out : ClassFile}
    {state last : S} {consumer : Sink C} (keeps : consumer.KeepsMethods)
    (lowered : lowerClass config services file state = .ok out last) (consumed : C) :
    Agree (fun _ streaming _ consumed => SameConsumer streaming consumed) SameConsumer
      (file.streamTo (ClassLowering.sink config services.onSnd consumer.onFst)
        ({}, consumed, state))
      (out.streamTo consumer consumed) := by
  rw [lowerClass_eq_lowerDirectly] at lowered
  unfold lowerDirectly at lowered
  rw [Action.bind_of_ok (Action.modify_apply _ _)] at lowered
  obtain ⟨⟨methods, pending⟩, reached, kept, afterMethods⟩ := Action.bind_eq_ok.mp lowered
  obtain ⟨_, _, free, afterFree⟩ := Action.bind_eq_ok.mp afterMethods
  cases afterFree
  have started : Agree
      (fun _ streaming _ consumed => BetweenMethods (.ofHeader file.header) .empty
        (config.startState services state) streaming consumed)
      SameConsumer
      ((ClassLowering.sink config services.onSnd consumer.onFst).send (.classHeader file.header)
        ({}, consumed, state))
      (consumer.send (.classHeader file.header) consumed) := by
    rw [ClassLowering.send_of_receive (ClassLowering.receive_classHeader config services.onSnd
      consumer.onFst file.header {} (consumed, state)), config.startState_onSnd, Sink.send_onFst,
      Action.onFst_apply]
    cases consumer.send (.classHeader file.header) consumed with
    | ok _ reached => exact .ok ⟨{}, rfl⟩
    | error error reached => exact .error rfl
  unfold ClassFile.streamTo
  apply started.bind
  intro _ _ _ _ between
  change Agree _ _ _
    (((methods ++ pending.entries.map (·.declaration Accessor.hostAccess)).forM
      (·.streamTo consumer) >>= fun _ => consumer.send .classEnd) _)
  rw [Action.forM_append, bind_assoc]
  apply (forM_streamTo_follows keeps (Action.withOwn_eq_ok.mp kept) between).bind
  intro _ _ _ _ between
  exact send_classEnd_follows between

/-- A class that can be lowered reaches a consumer that keeps all methods in the same way whether it
is lowered while it streams or beforehand. The consumer answers alike, or fails alike at the same
event, and is left in the same state; if it also writes down what it receives, it has written the
same. Either way the accessors are written as `Accessor.declaration`. -/
theorem streamTo_sink_eq_streamTo_lowered {config : Config} {services : Services S}
    {file out : ClassFile} {state last : S} {consumer : Sink C} (keeps : consumer.KeepsMethods)
    (lowered : lowerClass config services file state = .ok out last) (consumed : C) :
    Action.onState (·.2.1)
        (file.streamTo (ClassLowering.sink config services.onSnd consumer.onFst)
          ({}, consumed, state)) =
      out.streamTo consumer consumed ∧
    Action.onState (·.2.1)
        (file.streamTo (ClassLowering.sink config services.onSnd consumer.logging.onFst)
          ({}, ([], consumed), state)) =
      out.streamTo consumer.logging ([], consumed) :=
  ⟨(streamTo_sink_follows keeps lowered consumed).onState_eq (fun _ _ _ _ => id) fun _ _ => id,
    (streamTo_sink_follows keeps.logging lowered ([], consumed)).onState_eq
      (fun _ _ _ _ => id) fun _ _ => id⟩

/-- A consumer that keeps all methods, but has room only for so many events. -/
def Sink.upTo (room : Nat) : Sink Nat := ⟨fun event received =>
  if received < room then .ok true (received + 1)
  else .error (.malformed (.outOfOrder event .finished)) received⟩

/-- With room for nine events the consumer fails inside the accessor, at the call of the body. -/
theorem streamTo_sink_upTo_nine :
    (Sink.upTo 9).KeepsMethods ∧
    lowerClass {} PrivateBody.services PrivateBody.file () = .ok PrivateBody.lowered () ∧
    Action.onState (·.2.1)
        (PrivateBody.file.streamTo
          (ClassLowering.sink {} PrivateBody.services.onSnd (Sink.upTo 9).onFst) ({}, 0, ())) =
      .error (.malformed (.outOfOrder
        (.instruction (.invoke .invokestatic "a/M" "body" ⟨[], .void⟩ false)) .finished)) 9 := by
  have keeps : (Sink.upTo 9).KeepsMethods := by
    intro header received kept after
    simp only [Sink.upTo]
    split
    · intro answer
      cases answer
      rfl
    · intro answer
      cases answer
  have lowered : lowerClass {} PrivateBody.services PrivateBody.file () =
      .ok PrivateBody.lowered () := by
    rw [lowerClass_eq_lowerDirectly]
    rfl
  refine ⟨keeps, lowered, ?_⟩
  rw [(streamTo_sink_eq_streamTo_lowered keeps lowered 0).1]
  rfl

end LambdaLowering
