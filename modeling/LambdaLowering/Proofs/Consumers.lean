import LambdaLowering.Proofs.DirectLowering

/-! Consumers that answer alike.

In front of such consumers a class is lowered alike, however different the states are that they act
on. So nothing that a consumer does for itself has an effect on the lowering.
-/

set_option autoImplicit false

namespace LambdaLowering

variable {S T U α : Type}

/-- Consumers that answer alike as long as their states are related. -/
def Sink.Simulate (states : S → T → Prop) (first : Sink S) (second : Sink T) : Prop :=
  ∀ event state beside, states state beside →
    Agree (Alike states) states (first.receive event state) (second.receive event beside)

theorem Agree.onState_beside {states : S → T → Prop} {left : EStateM.Result Error S α}
    {right : EStateM.Result Error T α} (outer : U)
    (agree : Agree (Alike states) states left right) :
    Agree (Alike (Beside states)) (Beside states) (Action.onState (outer, ·) left)
      (Action.onState (outer, ·) right) := by
  cases agree with
  | ok related => exact .ok ⟨related.1, ⟨related.2⟩⟩
  | error related => exact .error ⟨related⟩

theorem Agree.forM {states : S → T → Prop} {pass : α → Action S Unit} {other : α → Action T Unit}
    (passes : ∀ value state beside, states state beside →
      Agree (Alike states) states (pass value state) (other value beside))
    (values : List α) {state : S} {beside : T} (related : states state beside) :
    Agree (Alike states) states (values.forM pass state) (values.forM other beside) := by
  induction values generalizing state beside with
  | nil => exact .ok ⟨rfl, related⟩
  | cons value values ih =>
    rw [Action.forM_cons, Action.forM_cons]
    exact (passes value state beside related).bind_alike fun _ _ _ related => ih related

namespace Sink.Simulate

variable {states : S → T → Prop} {first : Sink S} {second : Sink T}

theorem send (simulate : Simulate states first second) (event : Event) (state : S) (beside : T)
    (related : states state beside) :
    Agree (Alike states) states (first.send event state) (second.send event beside) :=
  (simulate event state beside related).bind_alike fun _ _ _ related => .ok ⟨rfl, related⟩

theorem streamMethod (simulate : Simulate states first second) (method : Method) (state : S)
    (beside : T) (related : states state beside) :
    Agree (Alike states) states (method.streamTo first state) (method.streamTo second beside) := by
  unfold Method.streamTo
  apply (simulate _ state beside related).bind_alike
  intro kept state beside related
  cases kept with
  | false => exact .ok ⟨rfl, related⟩
  | true =>
    simp only [↓reduceIte]
    apply (Agree.forM (fun one => simulate.send (.instruction one)) method.code related).bind_alike
    exact fun _ state beside related => simulate.send .methodEnd state beside related

theorem streamClass (simulate : Simulate states first second) (file : ClassFile) {state : S}
    {beside : T} (related : states state beside) :
    Agree (Alike states) states (file.streamTo first state) (file.streamTo second beside) := by
  unfold ClassFile.streamTo
  apply (simulate.send _ state beside related).bind_alike
  intro _ state beside related
  apply (Agree.forM simulate.streamMethod file.methods related).bind_alike
  exact fun _ state beside related => simulate.send .classEnd state beside related

end Sink.Simulate

theorem Services.onSnd_simulate_plain (services : Services S) :
    Services.Simulate (fun (behind : U × S) plain => behind.2 = plain) services.onSnd services where
  load := by
    rintro name ⟨outer, state⟩ _ rfl
    change Agree _ _ ((services.load name).onSnd (outer, state)) _
    rw [Action.onSnd_apply]
    exact .of_onState fun _ => rfl
  reify := by
    rintro request ⟨outer, state⟩ _ rfl
    change Agree _ _ ((services.reify request).onSnd (outer, state)) _
    rw [Action.onSnd_apply]
    exact .of_onState fun _ => rfl
  restart := by
    rintro ⟨outer, state⟩ _ rfl
    change Agree _ _ (services.restartNumbering.onSnd (outer, state)) _
    rw [Action.onSnd_apply]
    exact .of_onState fun _ => rfl
  log := by
    rintro entry ⟨outer, state⟩ _ rfl
    rfl

namespace ClassLowering

variable {states : S → T → Prop} {config : Config} {services : Services S} {other : Services T}
variable {consumer : Sink S} {second : Sink T}

theorem declare_agree (consumers : consumer.Simulate states second) (accessor : Accessor)
    (state : ClassLowering × S) (beside : ClassLowering × T)
    (related : Beside states state beside) :
    Agree (Alike (Beside states)) (Beside states) (declare consumer accessor state)
      (declare second accessor beside) := by
  obtain @⟨lowering, state, beside, related⟩ := related
  unfold declare
  apply ((consumers.streamMethod _ state beside related).onSnd lowering).bind_beside
  intro _ lowering state beside related
  exact .ok ⟨rfl, ⟨related⟩⟩

theorem conclude_agree (acts : services.Simulate states other)
    (consumers : consumer.Simulate states second) (state : ClassLowering × S)
    (beside : ClassLowering × T) (related : Beside states state beside) :
    Agree (Alike (Beside states)) (Beside states) (conclude services consumer state)
      (conclude other second beside) := by
  obtain @⟨lowering, state, beside, related⟩ := related
  rw [conclude_apply, conclude_apply]
  apply Agree.onState_beside
  cases lowering.host with
  | none => exact consumers _ _ _ related
  | some host => exact consumers _ _ _ (acts.log _ _ _ related)

theorem send_instruction_agree (acts : services.Simulate states other)
    (same : services.declared = other.declared) (consumers : consumer.Simulate states second)
    {host : HostClass} {replaced : Nat} {lowering : ClassLowering}
    (inClass : lowering.host = some host) (inMethod : lowering.current = some replaced)
    (one : Instruction) {state : S} {beside : T} (related : states state beside) :
    Agree (Alike (Beside states)) (Beside states)
      ((sink config services consumer).send (.instruction one) (lowering, state))
      ((sink config other second).send (.instruction one) (lowering, beside)) := by
  cases found : one.lambdaSite? config.metafactory with
  | none =>
    rw [send_instruction_plain _ _ _ inClass inMethod found,
      send_instruction_plain _ _ _ inClass inMethod found]
    exact (consumers.send _ _ _ related).onState_beside lowering
  | some site =>
    rw [send_instruction_site _ _ _ inClass inMethod found,
      send_instruction_site _ _ _ inClass inMethod found]
    have reaches : ∀ target ∈ site.implementation?,
        host.reaches services.declared target = host.reaches other.declared target :=
      fun target _ => by rw [same]
    have served := acts.factoryFor reaches lowering.pending related
    generalize services.factoryFor host site (lowering.pending, state) = left at served ⊢
    generalize other.factoryFor host site (lowering.pending, beside) = right at served ⊢
    cases served with
    | error related =>
      obtain ⟨related⟩ := related
      exact .error ⟨related⟩
    | ok related =>
      obtain ⟨rfl, ⟨related⟩⟩ := related
      exact (consumers.send _ _ _ related).onState_beside _

theorem sink_simulate (acts : services.Simulate states other)
    (same : services.declared = other.declared) (consumers : consumer.Simulate states second) :
    Sink.Simulate (Beside states) (sink config services consumer) (sink config other second) := by
  rintro event _ _ @⟨lowering, state, beside, related⟩
  cases event with
  | classHeader header =>
    rw [receive_classHeader, receive_classHeader]
    exact (consumers _ _ _ (acts.startState config related)).onState_beside _
  | methodHeader header =>
    cases hook : header.isDeserializationHook with
    | true =>
      rw [receive_methodHeader_hook _ _ _ hook, receive_methodHeader_hook _ _ _ hook]
      exact .ok ⟨rfl, ⟨acts.log _ _ _ related⟩⟩
    | false =>
      rw [receive_methodHeader_kept _ _ _ hook, receive_methodHeader_kept _ _ _ hook]
      have received := consumers (.methodHeader header) state beside related
      generalize consumer.receive (.methodHeader header) state = left at received ⊢
      generalize second.receive (.methodHeader header) beside = right at received ⊢
      cases received with
      | error related => exact .error ⟨related⟩
      | @ok kept _ _ _ related =>
        obtain ⟨rfl, related⟩ := related
        cases kept with
        | false => exact .ok ⟨rfl, ⟨related⟩⟩
        | true => exact .ok ⟨rfl, ⟨related⟩⟩
  | instruction one =>
    -- Outside of a method the lowering refuses by itself, and no consumer is asked.
    by_cases outside : lowering.host = none ∨ lowering.current = none
    · rw [receive_instruction_outside _ _ _ outside, receive_instruction_outside _ _ _ outside]
      exact .error ⟨related⟩
    · obtain ⟨begun, opened⟩ := not_or.mp outside
      obtain ⟨host, inClass⟩ := Option.ne_none_iff_exists'.mp begun
      obtain ⟨replaced, inMethod⟩ := Option.ne_none_iff_exists'.mp opened
      rw [receive_instruction, receive_instruction]
      apply (send_instruction_agree acts same consumers inClass inMethod one related).bind_alike
      exact fun _ _ _ related => .ok ⟨rfl, related⟩
  | methodEnd =>
    rw [receive_methodEnd, receive_methodEnd]
    exact (consumers _ _ _ related).onState_beside _
  | classEnd =>
    rw [receive_classEnd, receive_classEnd]
    apply (Agree.forM (declare_agree consumers) lowering.pending.entries
      (Beside.mk related)).bind_alike
    exact fun _ => conclude_agree acts consumers

end ClassLowering

end LambdaLowering
