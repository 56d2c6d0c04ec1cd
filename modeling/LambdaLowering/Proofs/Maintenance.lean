import LambdaLowering.Proofs.LoweringSteps

/-! What stays true however a class is lowered.

An action maintains what holds after it whenever it held before, and a failure is no exception. The
lowering of a class maintains what its collaborators and its consumer maintain.
-/

set_option autoImplicit false

namespace LambdaLowering

variable {S T α β : Type}

/-! ## Actions -/

/-- What holds before the action holds after it, even if the action fails. -/
def Action.Maintains (action : Action S α) (inv : S → Prop) : Prop :=
  ∀ state, inv state → inv (stateAfter (action state))

namespace Action.Maintains

variable {inv : S → Prop}

theorem answer (value : α) : (pure value : Action S α).Maintains inv := fun _ held => held

theorem change {changed : S → S} (kept : ∀ state, inv state → inv (changed state)) :
    (modify changed : Action S PUnit).Maintains inv := kept

theorem bind {first : Action S α} {next : α → Action S β} (firsts : first.Maintains inv)
    (rests : ∀ value, (next value).Maintains inv) : (first >>= next).Maintains inv := by
  intro state held
  have middle := firsts state held
  rw [bind_apply]
  cases ran : first state with
  | error error after =>
    rw [ran] at middle
    exact middle
  | ok value after =>
    rw [ran] at middle
    exact rests value after middle

theorem forM {pass : α → Action S Unit} (passes : ∀ value, (pass value).Maintains inv)
    (values : List α) : (values.forM pass).Maintains inv := by
  induction values with
  | nil => exact answer ()
  | cons value values ih =>
    rw [forM_cons]
    exact (passes value).bind fun _ => ih

theorem onSnd {inv : T → S → Prop} {action : Action S α}
    (kept : ∀ outer, action.Maintains (inv outer)) :
    (action.onSnd : Action (T × S) α).Maintains fun state => inv state.1 state.2 := by
  intro ⟨outer, state⟩ held
  rw [onSnd_apply, stateAfter_onState]
  exact kept outer state held

theorem beside (action : Action S α) (inv : T → Prop) :
    (action.onSnd : Action (T × S) α).Maintains fun state => inv state.1 := by
  intro ⟨outer, state⟩ held
  rw [onSnd_apply, stateAfter_onState]
  exact held

/-- What every pass of a loop establishes for its own value, and the others maintain, holds of all
values in the end. A pass may rely on what all of them maintain. -/
theorem forM_establishes {always : S → Prop} {inv : α → S → Prop} {pass : α → Action S Unit}
    (keeps : ∀ value, (pass value).Maintains always)
    (passes : ∀ value other, (pass other).Maintains (inv value))
    (establishes : ∀ value state after, always state → pass value state = .ok () after →
      inv value after)
    {values : List α} {state after : S} (held : always state)
    (ran : values.forM pass state = .ok () after) :
    ∀ value ∈ values, inv value after := by
  induction values generalizing state with
  | nil =>
    intro value none
    cases none
  | cons first values ih =>
    rw [forM_cons] at ran
    obtain ⟨_, middle, head, tail⟩ := bind_eq_ok.mp ran
    have later := keeps first state held
    rw [head] at later
    intro value member
    rcases List.mem_cons.mp member with rfl | member
    · have kept := forM (passes value) values middle (establishes value state middle held head)
      rwa [tail] at kept
    · exact ih later tail value member

end Action.Maintains

theorem Sink.stateAfter_send (sink : Sink S) (event : Event) (state : S) :
    Action.stateAfter (sink.send event state) = Action.stateAfter (sink.receive event state) := by
  rw [ClassLowering.send_eq, Action.bind_apply]
  cases sink.receive event state <;> rfl

theorem Sink.send_maintains {sink : Sink S} {event : Event} {inv : S → Prop}
    (receives : (sink.receive event).Maintains inv) : (sink.send event).Maintains inv :=
  receives.bind fun _ => .answer ()

def Event.isInside : Event → Bool
  | .methodHeader _ | .instruction _ | .methodEnd => true
  | .classHeader _ | .classEnd => false

theorem Method.streamTo_maintains (method : Method) {sink : Sink S} {inv : S → Prop}
    (receives : ∀ event, event.isInside → (sink.receive event).Maintains inv) :
    (method.streamTo sink).Maintains inv := by
  unfold Method.streamTo
  apply (receives _ rfl).bind
  intro kept
  cases kept with
  | false => exact .answer ()
  | true =>
    apply Action.Maintains.bind
    · exact .forM (fun one => Sink.send_maintains (receives (.instruction one) rfl)) _
    · exact fun _ => Sink.send_maintains (receives .methodEnd rfl)

/-! ## Collaborators -/

structure Services.Maintains (services : Services S) (inv : S → Prop) : Prop where
  load : ∀ name, (services.load name).Maintains inv
  reify : ∀ request, (services.reify request).Maintains inv
  restart : services.restartNumbering.Maintains inv
  log : ∀ entry state, inv state → inv (services.log entry state)

namespace Services

variable {services : Services S}

theorem onSnd_maintains (services : Services S) (inv : T → Prop) :
    (services.onSnd : Services (T × S)).Maintains fun state => inv state.1 where
  load name := .beside (services.load name) inv
  reify request := .beside (services.reify request) inv
  restart := .beside services.restartNumbering inv
  log _ _ held := held

namespace Maintains

variable {inv : S → Prop}

theorem report (acts : services.Maintains inv) (entry : LogRecord) :
    (services.report entry).Maintains inv := .change (acts.log entry)

theorem startState (acts : services.Maintains inv) (config : Config) {state : S}
    (held : inv state) : inv (config.startState services state) := by
  have restarted := acts.restart state held
  unfold Config.startState Services.restarted
  split
  · cases ran : services.restartNumbering state with
    | ok _ after =>
      rw [ran] at restarted
      exact restarted
    | error error after =>
      rw [ran] at restarted
      exact acts.log _ _ restarted
  · exact held

end Maintains

variable {inv : PendingAccessors → S → Prop}

theorem resolve_maintains (acts : ∀ pending, services.Maintains (inv pending))
    (grows : ∀ pending accessor state, inv pending state → inv (pending.push accessor) state)
    (host : HostClass) (target : MethodRef) :
    (services.resolve host target).Maintains fun state => inv state.1 state.2 := by
  intro ⟨pending, state⟩ held
  simp only [resolve]
  split
  · exact held
  · exact held
  · exact grows _ _ _ ((acts pending).log _ _ held)

theorem factoryFor_maintains (acts : ∀ pending, services.Maintains (inv pending))
    (grows : ∀ pending accessor state, inv pending state → inv (pending.push accessor) state)
    (host : HostClass) (site : CallSite) :
    (services.factoryFor host site).Maintains fun state => inv state.1 state.2 := by
  unfold factoryFor
  apply (Action.Maintains.onSnd fun pending => (acts pending).load host.name).bind
  intro invoker
  cases site.implementation? with
  | none => exact fun _ held => held
  | some target =>
    apply (resolve_maintains acts grows host target).bind
    intro callee
    apply (Action.Maintains.onSnd fun pending => (acts pending).reify _).bind
    intro factory
    apply (Action.Maintains.onSnd fun pending => (acts pending).report _).bind
    intro _
    exact .answer factory

end Services

/-! ## The lowering of a class -/

namespace ClassLowering

variable {config : Config} {services : Services S} {consumer : Sink S}

/-- What no event inside a method can break: neither the collaborators nor the consumer, nor one
more accessor that is pending. -/
structure Steady (services : Services S) (consumer : Sink S)
    (inv : Option HostClass → PendingAccessors → S → Prop) : Prop where
  acts : ∀ host pending, services.Maintains (inv host pending)
  receives : ∀ host pending event, event.isInside →
    (consumer.receive event).Maintains (inv host pending)
  grows : ∀ host pending accessor state, inv host pending state →
    inv host (pending.push accessor) state

theorem Steady.receive_maintains {inv : Option HostClass → PendingAccessors → S → Prop}
    (steady : Steady services consumer inv) {event : Event} (inside : event.isInside) :
    ((sink config services consumer).receive event).Maintains
      fun state => inv state.1.host state.1.pending state.2 := by
  intro ⟨lowering, state⟩ held
  cases event with
  | classHeader header => cases inside
  | classEnd => cases inside
  | methodHeader header =>
    cases hook : header.isDeserializationHook with
    | true =>
      rw [receive_methodHeader_hook _ _ _ hook]
      exact (steady.acts _ _).log _ _ held
    | false =>
      have received := steady.receives _ _ (.methodHeader header) rfl state held
      rw [receive_methodHeader_kept _ _ _ hook]
      rcases answer : consumer.receive (.methodHeader header) state with ⟨_ | _, after⟩ | _
      all_goals
        rw [answer] at received
        exact received
  | methodEnd =>
    rw [receive_methodEnd, Action.stateAfter_onState]
    exact steady.receives _ _ .methodEnd rfl state held
  | instruction one =>
    have passes := fun pending other =>
      Sink.send_maintains (steady.receives lowering.host pending (.instruction other) rfl)
    rw [← Sink.stateAfter_send]
    obtain ⟨_ | host, pending, _ | replaced, stats⟩ := lowering
    -- Outside of a method or class the instruction is refused.
    · exact held
    · exact held
    · exact held
    cases found : one.lambdaSite? config.metafactory with
    | none =>
      rw [send_instruction_plain _ _ _ rfl rfl found, Action.stateAfter_onState]
      exact passes pending one state held
    | some site =>
      have served := Services.factoryFor_maintains (steady.acts (some host))
        (steady.grows (some host)) host site (pending, state) held
      rw [send_instruction_site _ _ _ rfl rfl found]
      rcases ran : services.factoryFor host site (pending, state) with
        ⟨factory, after⟩ | ⟨error, after⟩
      · rw [ran] at served
        simp only [Action.stateAfter_onState]
        exact passes after.1 factory.call after.2 served
      · rw [ran] at served
        exact served

theorem declare_maintains {inv : S → Prop}
    (receives : ∀ event, event.isInside → (consumer.receive event).Maintains inv)
    (accessor : Accessor) :
    (declare consumer accessor).Maintains fun state => inv state.2 := by
  unfold declare
  apply Action.Maintains.bind
  · exact .onSnd fun _ => Method.streamTo_maintains _ receives
  · exact fun _ => .change fun _ held => held

theorem conclude_maintains {inv : S → Prop} (acts : services.Maintains inv)
    (receives : (consumer.receive .classEnd).Maintains inv) :
    (conclude services consumer).Maintains fun state => inv state.2 := by
  intro ⟨⟨host?, pending, current, stats⟩, state⟩ held
  rw [conclude_apply, Action.stateAfter_onState]
  apply receives
  cases host? with
  | none => exact held
  | some host => exact acts.log _ _ held

theorem receive_classEnd_maintains {inv : S → Prop} (acts : services.Maintains inv)
    (receives : ∀ event, (consumer.receive event).Maintains inv) :
    ((sink config services consumer).receive .classEnd).Maintains fun state => inv state.2 := by
  intro ⟨lowering, state⟩ held
  rw [receive_classEnd]
  have declares : (lowering.pending.entries.forM (declare consumer)).Maintains
      fun state : ClassLowering × S => inv state.2 :=
    .forM (declare_maintains fun event _ => receives event) _
  exact (declares.bind fun _ => conclude_maintains acts (receives .classEnd)) _ held

theorem receive_classHeader_maintains {inv : S → Prop} (acts : services.Maintains inv)
    (header : ClassHeader) (receives : (consumer.receive (.classHeader header)).Maintains inv) :
    ((sink config services consumer).receive (.classHeader header)).Maintains
      fun state => inv state.2 := by
  intro ⟨lowering, state⟩ held
  rw [receive_classHeader, Action.stateAfter_onState]
  exact receives _ (acts.startState config held)

theorem receive_maintains {inv : S → Prop} (acts : services.Maintains inv)
    (receives : ∀ event, (consumer.receive event).Maintains inv) (event : Event) :
    ((sink config services consumer).receive event).Maintains fun state => inv state.2 := by
  have steady : Steady services consumer fun _ _ => inv :=
    ⟨fun _ _ => acts, fun _ _ event _ => receives event, fun _ _ _ _ held => held⟩
  cases event with
  | classHeader header => exact receive_classHeader_maintains acts header (receives _)
  | methodHeader header => exact steady.receive_maintains rfl
  | instruction one => exact steady.receive_maintains rfl
  | methodEnd => exact steady.receive_maintains rfl
  | classEnd => exact receive_classEnd_maintains acts receives

end ClassLowering

end LambdaLowering
