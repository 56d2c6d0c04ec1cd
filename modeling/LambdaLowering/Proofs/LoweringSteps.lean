import LambdaLowering.ClassLowering
import LambdaLowering.Proofs.ActionRuns

/-! What a lowering does on each event, in front of any consumer.

There is one law for every event and every way in which the lowering handles it. The laws say all
that an event does, failures included, so runs are followed through them alone.
-/

set_option autoImplicit false

namespace LambdaLowering

variable {S : Type}

def Services.restarted (services : Services S) (state : S) : S :=
  match services.restartNumbering state with
  | .ok _ state => state
  | .error error state => services.log (.restartFailed error) state

def Config.startState (config : Config) (services : Services S) (state : S) : S :=
  if config.restartNumbering then services.restarted state else state

theorem Services.tryRestartNumbering_apply (services : Services S) (state : S) :
    services.tryRestartNumbering state = .ok () (services.restarted state) := by
  unfold tryRestartNumbering restarted
  cases services.restartNumbering state <;> rfl

theorem Services.keeps_hook {T : Type} (services : Services S) {header : MethodHeader}
    (hook : header.isDeserializationHook) (outer : T) (state : S) :
    (services.keeps header).onSnd (outer, state) =
      .ok false (outer, services.log (.hookDropped header.signature) state) := by
  rw [Action.onSnd_apply, Services.keeps, if_pos hook]
  rfl

theorem Services.keeps_ordinary {T : Type} (services : Services S) {header : MethodHeader}
    (ordinary : header.isDeserializationHook = false) (outer : T) (state : S) :
    (services.keeps header).onSnd (outer, state) = .ok true (outer, state) := by
  rw [Action.onSnd_apply, Services.keeps, ordinary]
  rfl

/-- A target that can be reached is called itself. For another an accessor is planned, with the
number of those that are pending. Where this is not known, nothing is planned. -/
theorem Services.resolve_apply (services : Services S) (host : HostClass) (target : MethodRef)
    (pending : PendingAccessors) (state : S) :
    services.resolve host target (pending, state) =
      match host.reaches services.declared target with
      | .error error => .error error (pending, state)
      | .ok true => .ok target (pending, state)
      | .ok false =>
        let accessor := Accessor.numbered pending.size host target
        .ok accessor.method
          (pending.push accessor, services.log (.accessorPlanned accessor) state) := by
  simp only [resolve, PendingAccessors.next?]
  rcases host.reaches services.declared target with error | _ | _ <;> rfl

namespace ClassLowering

variable (config : Config) (services : Services S) (consumer : Sink S)

theorem send_eq (sink : Sink S) (event : Event) :
    sink.send event = sink.receive event >>= fun _ => pure () := rfl

theorem send_eq_error {sink : Sink S} {event : Event} {state last : S} {error : Error} :
    sink.send event state = .error error last ↔ sink.receive event state = .error error last := by
  rw [send_eq, Action.bind_apply]
  cases sink.receive event state <;> simp

theorem send_of_receive {T : Type} {sink : Sink S} {consumer : Sink T} {event passed : Event}
    {change : T → S} {state : S} {beside : T}
    (law : sink.receive event state = Action.onState change (consumer.receive passed beside)) :
    sink.send event state = Action.onState change (consumer.send passed beside) := by
  rw [send_eq, send_eq, Action.bind_apply, Action.bind_apply, law]
  cases consumer.receive passed beside <;> rfl

theorem receive_classHeader (header : ClassHeader) (lowering : ClassLowering) (state : S) :
    (sink config services consumer).receive (.classHeader header) (lowering, state) =
      Action.onState
        ({ lowering with host := some (.ofHeader header), pending := .empty }, ·)
        (consumer.receive (.classHeader header) (config.startState services state)) := by
  change start config services consumer header (lowering, state) = _
  unfold start Config.startState
  -- Whether the numbering starts over is asked for in the code, so the run is cut there.
  split
  · have restart : services.tryRestartNumbering.onSnd (lowering, state) =
        .ok () (lowering, services.restarted state) := by
      rw [Action.onSnd_apply, services.tryRestartNumbering_apply]
      rfl
    exact (Action.bind_of_ok restart _).trans (Action.onSnd_apply _ _ _)
  · exact Action.onSnd_apply _ _ _

theorem receive_methodHeader_hook {header : MethodHeader} (hook : header.isDeserializationHook)
    (lowering : ClassLowering) (state : S) :
    (sink config services consumer).receive (.methodHeader header) (lowering, state) =
      .ok false
        ({ lowering with stats := { lowering.stats with hooks := lowering.stats.hooks + 1 } },
          services.log (.hookDropped header.signature) state) := by
  change openMethod services consumer header (lowering, state) = _
  rw [openMethod, Action.bind_of_ok (services.keeps_hook hook lowering state)]
  rfl

theorem receive_methodHeader_kept {header : MethodHeader}
    (ordinary : header.isDeserializationHook = false) (lowering : ClassLowering) (state : S) :
    (sink config services consumer).receive (.methodHeader header) (lowering, state) =
      match consumer.receive (.methodHeader header) state with
      | .ok true state => .ok true ({ lowering with current := some 0 }, state)
      | .ok false state => .ok false (lowering, state)
      | .error error state => .error error (lowering, state) := by
  change openMethod services consumer header (lowering, state) = _
  rw [openMethod, Action.bind_of_ok (services.keeps_ordinary ordinary lowering state)]
  simp only [↓reduceIte]
  rw [Action.bind_apply, Action.onSnd_apply]
  rcases consumer.receive (.methodHeader header) state with ⟨kept, after⟩ | ⟨error, after⟩
  · cases kept <;> rfl
  · rfl

theorem receive_methodEnd (lowering : ClassLowering) (state : S) :
    (sink config services consumer).receive .methodEnd (lowering, state) =
      Action.onState
        ({ lowering with
          current := none
          stats := { lowering.stats with
            callSites := lowering.stats.callSites + lowering.current.getD 0 } }, ·)
        (consumer.receive .methodEnd state) :=
  Action.onSnd_apply _ _ _

theorem send_methodEnd (lowering : ClassLowering) (state : S) :
    (sink config services consumer).send .methodEnd (lowering, state) =
      Action.onState
        ({ lowering with
          current := none
          stats := { lowering.stats with
            callSites := lowering.stats.callSites + lowering.current.getD 0 } }, ·)
        (consumer.send .methodEnd state) :=
  send_of_receive (receive_methodEnd config services consumer lowering state)

theorem streamTo_hook {method : Method} (hook : method.header.isDeserializationHook)
    (lowering : ClassLowering) (state : S) :
    method.streamTo (sink config services consumer) (lowering, state) =
      .ok () ({ lowering with stats := { lowering.stats with hooks := lowering.stats.hooks + 1 } },
        services.log (.hookDropped method.header.signature) state) := by
  rw [Method.streamTo, Action.bind_of_ok (receive_methodHeader_hook _ _ _ hook lowering state)]
  rfl

section ClassEnd

def conclude : Action (ClassLowering × S) Bool := do
  let (lowering, _) ← get
  if let some host := lowering.host then
    (services.report (.classFinished host lowering.stats)).onSnd
  (consumer.receive .classEnd).onSnd

theorem receive_classEnd (lowering : ClassLowering) (state : S) :
    (sink config services consumer).receive .classEnd (lowering, state) =
      (do
        lowering.pending.entries.forM (declare consumer)
        conclude services consumer : Action (ClassLowering × S) Bool)
        ({ lowering with pending := .empty }, state) := rfl

theorem send_classEnd (lowering : ClassLowering) (state : S) :
    (sink config services consumer).send .classEnd (lowering, state) =
      (do
        lowering.pending.entries.forM (declare consumer)
        let _ ← conclude services consumer : Action (ClassLowering × S) Unit)
        ({ lowering with pending := .empty }, state) := by
  rw [send_eq, Action.bind_apply, receive_classEnd, ← Action.bind_apply, bind_assoc]

theorem conclude_apply (lowering : ClassLowering) (state : S) :
    conclude services consumer (lowering, state) =
      Action.onState (lowering, ·) (consumer.receive .classEnd
        (match lowering.host with
          | some host => services.log (.classFinished host lowering.stats) state
          | none => state)) := by
  obtain ⟨_ | host, pending, current, stats⟩ := lowering
  · exact Action.onSnd_apply _ _ _
  · exact Action.onSnd_apply _ _ _

end ClassEnd

section Instructions

variable {host : HostClass} {replaced : Nat} {lowering : ClassLowering}
variable {instruction : Instruction}

theorem receive_instruction (one : Instruction) :
    (sink config services consumer).receive (.instruction one) =
      (sink config services consumer).send (.instruction one) >>= fun _ => pure true := by
  change lower config services consumer one >>= (fun _ => pure true) =
    ((lower config services consumer one >>= fun _ => pure true) >>= fun _ => pure ()) >>=
      fun _ => pure true
  simp only [bind_assoc, pure_bind]

theorem receive_instruction_outside
    (outside : lowering.host = none ∨ lowering.current = none) (state : S) :
    (sink config services consumer).receive (.instruction instruction) (lowering, state) =
      .error (.malformed (.instructionOutsideMethod instruction)) (lowering, state) := by
  obtain ⟨_ | host, pending, _ | replaced, stats⟩ := lowering
  case some.some => simp at outside
  all_goals rfl

theorem send_instruction (inClass : lowering.host = some host)
    (inMethod : lowering.current = some replaced) (state : S) :
    (sink config services consumer).send (.instruction instruction) (lowering, state) =
      onMethod replaced
        (MethodLowering.lower services config.metafactory host consumer instruction)
        (lowering, state) := by
  -- The lowering is a record, and only its host and its count say where it stands.
  have position : lower config services consumer instruction (lowering, state) =
      onMethod replaced
        (MethodLowering.lower services config.metafactory host consumer instruction)
        (lowering, state) := by
    obtain ⟨_, _, _, _⟩ := lowering
    cases inClass
    cases inMethod
    rfl
  have received : (sink config services consumer).receive (.instruction instruction) =
      lower config services consumer instruction >>= fun _ => pure true := rfl
  rw [send_eq, received, ← position, Action.bind_apply, Action.bind_apply]
  cases lower config services consumer instruction (lowering, state) <;> rfl

theorem send_instruction_plain (inClass : lowering.host = some host)
    (inMethod : lowering.current = some replaced)
    (plain : instruction.lambdaSite? config.metafactory = none) (state : S) :
    (sink config services consumer).send (.instruction instruction) (lowering, state) =
      Action.onState (lowering, ·) (consumer.send (.instruction instruction) state) := by
  rw [send_instruction config services consumer inClass inMethod, onMethod,
    MethodLowering.lower, plain]
  simp only [Action.onSnd_apply]
  obtain ⟨_, _, _, _⟩ := lowering
  cases inMethod
  cases consumer.send (.instruction instruction) state <;> rfl

theorem send_instruction_site {site : CallSite} (inClass : lowering.host = some host)
    (inMethod : lowering.current = some replaced)
    (found : instruction.lambdaSite? config.metafactory = some site) (state : S) :
    (sink config services consumer).send (.instruction instruction) (lowering, state) =
      match services.factoryFor host site (lowering.pending, state) with
      | .error error (pending, state) => .error error ({ lowering with pending }, state)
      | .ok factory (pending, state) =>
        Action.onState ({ lowering with pending, current := some (replaced + 1) }, ·)
          (consumer.send (.instruction factory.call) state) := by
  rw [send_instruction config services consumer inClass inMethod, onMethod,
    MethodLowering.lower, found]
  simp only [Action.bind_apply, MethodLowering.onPending]
  obtain ⟨_, _, _, _⟩ := lowering
  cases inMethod
  cases services.factoryFor host site _ with
  | error error after => rfl
  | ok factory after =>
    -- The site is counted before the consumer is asked, so a refusal leaves it counted.
    simp only [MethodLowering.countSite, Action.modify_apply, Action.onSnd_apply]
    cases consumer.send (.instruction factory.call) after.2 <;> rfl

end Instructions

end ClassLowering

end LambdaLowering
