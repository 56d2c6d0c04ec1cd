import LambdaLowering.Proofs.Transcripts

/-! What is offered to a consumer in a run that comes to its end.

The consumer may drop any method. A derivation follows the methods of the class and says which of
them the consumer kept, what those became, and what was asked for them. A run that is observed on
both sides, with what the consumer was sent and what the collaborators were asked, has one.
-/

set_option autoImplicit false

namespace LambdaLowering

variable {S T : Type}

/-! ## Derivations -/

section Derivations

variable {declared : Declarations} {metafactory : String} {host : HostClass}
variable {pending middle last : PendingAccessors} {record asked : List Consultation}

theorem CodeLowered.append {code more lowered loweredMore : List Instruction}
    (first : CodeLowered declared metafactory host pending code lowered asked middle)
    (second : CodeLowered declared metafactory host middle more loweredMore record last) :
    CodeLowered declared metafactory host pending (code ++ more) (lowered ++ loweredMore)
      (asked ++ record) last := by
  induction first with
  | nil => exact second
  | plain plain rest ih => exact .plain plain (ih second)
  | site found served rest ih =>
    rw [List.append_assoc]
    exact .site found served (ih second)

theorem CodeLowered.sentAs {code lowered : List Instruction}
    (derived : CodeLowered declared metafactory host pending code lowered record last) :
    code.Forall₂ (Instruction.SentAs metafactory) lowered := by
  induction derived with
  | nil => exact .nil
  | plain plain rest ih => exact .cons (Instruction.sentAs_self plain) ih
  | site found served rest ih => exact .cons (Instruction.sentAs_call found _) ih

variable (declared metafactory host) in
/-- Methods are offered to a consumer, all but the hook. Only those that it keeps are lowered, and
only they ask for lambda classes and plan accessors. -/
inductive MethodsOffered : PendingAccessors → List Method → List Offer → List Consultation →
    PendingAccessors → Prop
  | nil {pending : PendingAccessors} : MethodsOffered pending [] [] [] pending
  | hook {pending last : PendingAccessors} {method : Method} {methods : List Method}
      {offers : List Offer} {record : List Consultation}
      (hook : method.header.isDeserializationHook = true)
      (rest : MethodsOffered pending methods offers record last) :
      MethodsOffered pending (method :: methods) offers record last
  | dropped {pending last : PendingAccessors} {method : Method} {methods : List Method}
      {offer : Offer} {offers : List Offer} {record : List Consultation}
      (ordinary : method.header.isDeserializationHook = false)
      (lowers : offer.Lowers metafactory method) (unkept : offer.kept = false)
      (rest : MethodsOffered pending methods offers record last) :
      MethodsOffered pending (method :: methods) (offer :: offers) record last
  | kept {pending middle last : PendingAccessors} {method : Method} {methods : List Method}
      {code : List Instruction} {offers : List Offer} {asked record : List Consultation}
      (ordinary : method.header.isDeserializationHook = false)
      (body : CodeLowered declared metafactory host pending method.code code asked middle)
      (rest : MethodsOffered middle methods offers record last) :
      MethodsOffered pending (method :: methods) (⟨⟨method.header, code⟩, true⟩ :: offers)
        (asked ++ record) last

namespace MethodsOffered

variable {methods more : List Method} {offers offersMore : List Offer}

theorem append
    (first : MethodsOffered declared metafactory host pending methods offers asked middle)
    (second : MethodsOffered declared metafactory host middle more offersMore record last) :
    MethodsOffered declared metafactory host pending (methods ++ more) (offers ++ offersMore)
      (asked ++ record) last := by
  induction first with
  | nil => exact second
  | hook hook rest ih => exact .hook hook (ih second)
  | dropped ordinary lowers unkept rest ih => exact .dropped ordinary lowers unkept (ih second)
  | kept ordinary body rest ih =>
    rw [List.append_assoc]
    exact .kept ordinary body (ih second)

variable (derived : MethodsOffered declared metafactory host pending methods offers record last)

include derived

theorem lowers :
    (methods.filter (!·.header.isDeserializationHook)).Forall₂ (Offer.Lowers metafactory)
      offers := by
  induction derived with
  | nil => exact .nil
  | hook hook rest ih => rwa [List.filter_cons_of_neg (by simp [hook])]
  | dropped ordinary lowers unkept rest ih =>
    rw [List.filter_cons_of_pos (by simp [ordinary])]
    exact .cons lowers ih
  | kept ordinary body rest ih =>
    rw [List.filter_cons_of_pos (by simp [ordinary])]
    exact .cons ⟨rfl, body.sentAs⟩ ih

theorem pending_eq {targets : List MethodRef} (before : pending = .plannedFor host targets) :
    last = .plannedFor host (targets ++ CallSite.needing host declared
      (Offer.keptSites metafactory (methods.filter (!·.header.isDeserializationHook)) offers)) := by
  induction derived generalizing targets with
  | nil =>
    rw [before]
    simp [CallSite.needing, Offer.keptSites]
  | hook hook rest ih => rw [ih before, List.filter_cons_of_neg (by simp [hook])]
  | dropped ordinary lowers unkept rest ih =>
    rw [ih before, List.filter_cons_of_pos (by simp [ordinary]), Offer.keptSites_cons, unkept]
    rfl
  | kept ordinary body rest ih =>
    rw [ih (body.pending_eq before), List.filter_cons_of_pos (by simp [ordinary]),
      Offer.keptSites_cons, CallSite.needing_append, List.append_assoc]
    rfl

end MethodsOffered

end Derivations

/-! ## Runs that come to their end -/

def Sink.onSnd (consumer : Sink S) : Sink (T × S) := ⟨fun event => (consumer.receive event).onSnd⟩

theorem Sink.onSnd_simulate (consumer : Sink S) :
    Sink.Simulate (fun (behind : T × S) plain => behind.2 = plain) consumer.onSnd consumer := by
  rintro event ⟨outer, state⟩ _ rfl
  change Agree _ _ ((consumer.receive event).onSnd (outer, state)) _
  rw [Action.onSnd_apply]
  exact .of_onState fun _ => rfl

namespace ClassLowering

/-- The lowering in front of a consumer that notes what it is sent, with collaborators that write
down what they are asked. -/
def observed (config : Config) (services : Services S) (consumer : Sink S) :
    Sink (ClassLowering × List Delivery × List Consultation × S) :=
  sink config services.recording.onSnd consumer.onSnd.noting

theorem streamTo_observed (config : Config) (services : Services S) (consumer : Sink S)
    (file : ClassFile) (state : S) :
    file.streamTo (sink config services consumer) ({}, state) =
      Action.onState (fun reached => (reached.1, reached.2.2.2))
        (file.streamTo (observed config services consumer) ({}, [], [], state)) := by
  -- The collaborators get their record first, and then the consumer gets its notes.
  have simulate : Sink.Simulate _ (sink config services.recording consumer.onSnd)
      (sink config services consumer) :=
    sink_simulate services.recording_simulate rfl consumer.onSnd_simulate
  have recorded : Action.onState (fun reached => (reached.1, reached.2.2))
      (file.streamTo (sink config services.recording consumer.onSnd) ({}, [], state)) =
      file.streamTo (sink config services consumer) ({}, state) := by
    apply (simulate.streamClass file (Beside.mk rfl)).onState_eq
    · rintro _ _ _ _ ⟨_, ⟨rfl⟩⟩
      rfl
    · rintro _ _ ⟨rfl⟩
      rfl
  have noted := streamTo_sink_noting config services.recording consumer.onSnd file [] ([], state)
  rw [← recorded, noted]
  change _ = Action.onState _ (file.streamTo (sink config services.recording.onSnd
    consumer.onSnd.noting) ({}, [], [], state))
  cases file.streamTo (sink config services.recording.onSnd consumer.onSnd.noting)
    ({}, [], [], state) <;> rfl

section Ends

variable {config : Config} {services : Services S} {consumer : Sink S} {host : HostClass}
variable {pending : PendingAccessors} {replaced : Nat} {stats : Stats} {lowering : ClassLowering}
variable {sent : List Delivery} {record : List Consultation} {state : S}
variable {behind : List Delivery × List Consultation × S}
variable {reached : ClassLowering × List Delivery × List Consultation × S}

theorem receive_noting_eq_ok {event : Event} {kept : Bool}
    (ran : (consumer.onSnd.noting).receive event (sent, record, state) = .ok kept behind) :
    ∃ last, behind = (sent ++ [⟨event, event.reception kept⟩], record, last) := by
  simp only [Sink.noting, Sink.onSnd, Action.onSnd_apply] at ran
  cases answer : consumer.receive event state with
  | error error after =>
    rw [answer] at ran
    cases ran
  | ok other after =>
    rw [answer] at ran
    cases ran
    exact ⟨after, rfl⟩

theorem send_noting_eq_ok {event : Event} (plain : ∀ kept, event.reception kept = .accepted)
    (ran : (consumer.onSnd.noting).send event (sent, record, state) = .ok () behind) :
    ∃ last, behind = (sent ++ [⟨event, .accepted⟩], record, last) := by
  obtain ⟨kept, _, received, done⟩ := Action.bind_eq_ok.mp ran
  cases done
  obtain ⟨last, rfl⟩ := receive_noting_eq_ok received
  exact ⟨last, by rw [plain]⟩

theorem send_instruction_eq_ok {one : Instruction}
    (ran : (observed config services consumer).send (.instruction one)
      (⟨some host, pending, some replaced, stats⟩, sent, record, state) = .ok () reached) :
    ∃ lowered asked last stateLast,
      CodeLowered services.declared config.metafactory host pending [one] [lowered] asked last ∧
      reached = (⟨some host, last, some (replaced + (generatedIn asked).length), stats⟩,
        sent ++ [⟨.instruction lowered, .accepted⟩], record ++ asked, stateLast) := by
  unfold observed at ran
  cases found : one.lambdaSite? config.metafactory with
  | none =>
    rw [send_instruction_plain _ _ _ rfl rfl found] at ran
    obtain ⟨_, passed, rfl⟩ := Action.onState_eq_ok.mp ran
    obtain ⟨last, rfl⟩ := send_noting_eq_ok (fun _ => rfl) passed
    exact ⟨one, [], pending, last, .plain found .nil, by simp [generatedIn]⟩
  | some site =>
    rw [send_instruction_site _ _ _ rfl rfl found, Services.factoryFor_onSnd] at ran
    cases served : services.recording.factoryFor host site (pending, record, state) with
    | error error after =>
      rw [served] at ran
      cases ran
    | ok factory after =>
      obtain ⟨last, recordLast, stateMade⟩ := after
      obtain ⟨asked, rfl, derived⟩ := SiteLowered.of_factoryFor served
      rw [served] at ran
      obtain ⟨_, passed, rfl⟩ := Action.onState_eq_ok.mp ran
      obtain ⟨stateLast, rfl⟩ := send_noting_eq_ok (fun _ => rfl) passed
      obtain ⟨_, _, _, _, generated⟩ := derived.generated
      refine ⟨factory.call, asked, last, stateLast, ?_, ?_⟩
      · rw [← List.append_nil asked]
        exact .site found derived .nil
      · simp [generated]

theorem forM_instructions_eq_ok {code : List Instruction}
    (ran : code.forM (fun one => (observed config services consumer).send (.instruction one))
      (⟨some host, pending, some replaced, stats⟩, sent, record, state) = .ok () reached) :
    ∃ lowered asked last stateLast,
      CodeLowered services.declared config.metafactory host pending code lowered asked last ∧
      reached = (⟨some host, last, some (replaced + (generatedIn asked).length), stats⟩,
        sent ++ lowered.map (⟨.instruction ·, .accepted⟩), record ++ asked, stateLast) := by
  induction code generalizing pending replaced sent record state with
  | nil =>
    cases ran
    exact ⟨[], [], pending, state, .nil, by simp [generatedIn]⟩
  | cons one code ih =>
    rw [Action.forM_cons] at ran
    obtain ⟨_, _, head, tail⟩ := Action.bind_eq_ok.mp ran
    obtain ⟨first, asked, middle, _, here, rfl⟩ := send_instruction_eq_ok head
    obtain ⟨rest, askedLater, last, stateLast, later, rfl⟩ := ih tail
    refine ⟨first :: rest, asked ++ askedLater, last, stateLast, here.append later, ?_⟩
    simp [Nat.add_assoc]

theorem streamTo_eq_ok {method : Method}
    (ran : method.streamTo (observed config services consumer)
      (⟨some host, pending, none, stats⟩, sent, record, state) = .ok () reached) :
    ∃ offers asked last stateLast,
      MethodsOffered services.declared config.metafactory host pending [method] offers asked
        last ∧
      reached = (⟨some host, last, none, { stats with
          callSites := stats.callSites + (generatedIn asked).length
          hooks := stats.hooks + ([method].filter (·.header.isDeserializationHook)).length }⟩,
        sent ++ offers.flatMap Offer.deliveries, record ++ asked, stateLast) := by
  unfold observed at ran
  cases hook : method.header.isDeserializationHook with
  | true =>
    rw [streamTo_hook _ _ _ hook] at ran
    cases ran
    have logged (entry : LogRecord) : services.recording.onSnd.log entry (sent, record, state) =
        (sent, record, services.log entry state) := rfl
    exact ⟨[], [], pending, services.log (.hookDropped method.header.signature) state,
      .hook hook .nil, by simp [generatedIn, hook, logged]⟩
  | false =>
    obtain ⟨kept, _, opened, afterOpen⟩ := Action.bind_eq_ok.mp ran
    rw [receive_methodHeader_kept _ _ _ hook] at opened
    cases answer : (consumer.onSnd.noting).receive (.methodHeader method.header)
        (sent, record, state) with
    | error error after =>
      rw [answer] at opened
      cases opened
    | ok keeps after =>
      obtain ⟨stateOpen, rfl⟩ := receive_noting_eq_ok answer
      rw [answer] at opened
      cases keeps with
      | false =>
        cases opened
        cases afterOpen
        -- The body of a method that is dropped is not streamed, so no site in it is served.
        obtain ⟨offer, lowers, unkept, delivered⟩ := Offer.exists_dropped config.metafactory method
        exact ⟨[offer], [], pending, stateOpen, .dropped hook lowers unkept .nil,
          by simp [generatedIn, hook, delivered, Event.reception]⟩
      | true =>
        cases opened
        obtain ⟨_, _, body, afterBody⟩ := Action.bind_eq_ok.mp afterOpen
        obtain ⟨code, asked, last, _, derived, rfl⟩ := forM_instructions_eq_ok body
        rw [send_methodEnd] at afterBody
        obtain ⟨_, passed, rfl⟩ := Action.onState_eq_ok.mp afterBody
        obtain ⟨stateLast, rfl⟩ := send_noting_eq_ok (fun _ => rfl) passed
        refine ⟨[⟨⟨method.header, code⟩, true⟩], asked, last, stateLast, ?_, ?_⟩
        · rw [← List.append_nil asked]
          exact .kept hook derived .nil
        · simp [hook, Offer.deliveries_kept, Event.reception]

theorem forM_streamTo_eq_ok {methods : List Method}
    (ran : methods.forM (·.streamTo (observed config services consumer))
      (⟨some host, pending, none, stats⟩, sent, record, state) = .ok () reached) :
    ∃ offers asked last stateLast,
      MethodsOffered services.declared config.metafactory host pending methods offers asked
        last ∧
      reached = (⟨some host, last, none, { stats with
          callSites := stats.callSites + (generatedIn asked).length
          hooks := stats.hooks + (methods.filter (·.header.isDeserializationHook)).length }⟩,
        sent ++ offers.flatMap Offer.deliveries, record ++ asked, stateLast) := by
  induction methods generalizing pending stats sent record state with
  | nil =>
    cases ran
    exact ⟨[], [], pending, state, .nil, by simp [generatedIn]⟩
  | cons method methods ih =>
    rw [Action.forM_cons] at ran
    obtain ⟨_, _, head, tail⟩ := Action.bind_eq_ok.mp ran
    obtain ⟨offers, asked, middle, _, here, rfl⟩ := streamTo_eq_ok head
    obtain ⟨offersLater, askedLater, last, stateLast, later, rfl⟩ := ih tail
    refine ⟨offers ++ offersLater, asked ++ askedLater, last, stateLast, here.append later, ?_⟩
    have hooks : (method :: methods).filter (·.header.isDeserializationHook) =
        [method].filter (·.header.isDeserializationHook) ++
          methods.filter (·.header.isDeserializationHook) := List.filter_append [method] methods
    rw [hooks]
    simp [Nat.add_assoc]

/-! ## The end of the class -/

theorem forM_noting_eq_ok {code : List Instruction}
    (ran : code.forM (fun one => consumer.onSnd.noting.send (.instruction one))
      (sent, record, state) = .ok () behind) :
    ∃ last, behind = (sent ++ code.map (⟨.instruction ·, .accepted⟩), record, last) := by
  induction code generalizing sent state with
  | nil =>
    cases ran
    exact ⟨state, by simp⟩
  | cons one code ih =>
    rw [Action.forM_cons] at ran
    obtain ⟨_, _, head, tail⟩ := Action.bind_eq_ok.mp ran
    obtain ⟨after, rfl⟩ := send_noting_eq_ok (fun _ => rfl) head
    obtain ⟨last, rfl⟩ := ih tail
    exact ⟨last, by simp⟩

theorem streamTo_noting_eq_ok {method : Method}
    (ran : method.streamTo consumer.onSnd.noting (sent, record, state) = .ok () behind) :
    ∃ kept last, behind = (sent ++ (Offer.mk method kept).deliveries, record, last) := by
  obtain ⟨kept, _, opened, afterOpen⟩ := Action.bind_eq_ok.mp ran
  obtain ⟨stateOpen, rfl⟩ := receive_noting_eq_ok opened
  refine ⟨kept, ?_⟩
  cases kept with
  | false =>
    cases afterOpen
    exact ⟨stateOpen, rfl⟩
  | true =>
    obtain ⟨_, _, body, ended⟩ := Action.bind_eq_ok.mp afterOpen
    obtain ⟨stateBody, rfl⟩ := forM_noting_eq_ok body
    obtain ⟨last, rfl⟩ := send_noting_eq_ok (fun _ => rfl) ended
    exact ⟨last, by simp [Offer.deliveries_kept, Event.reception]⟩

theorem forM_declare_eq_ok {accessors : List Accessor}
    (ran : accessors.forM (declare consumer.onSnd.noting) (lowering, sent, record, state) =
      .ok () reached) :
    ∃ (offers : List Offer) (last : S),
      offers.map Offer.method = accessors.map (·.declaration Accessor.hostAccess) ∧
      reached = ({ lowering with stats := { lowering.stats with
          accessors := lowering.stats.accessors + offers.length } },
        sent ++ offers.flatMap Offer.deliveries, record, last) := by
  induction accessors generalizing lowering sent state with
  | nil =>
    cases ran
    exact ⟨[], state, rfl, by simp⟩
  | cons accessor accessors ih =>
    rw [Action.forM_cons] at ran
    obtain ⟨_, _, head, tail⟩ := Action.bind_eq_ok.mp ran
    obtain ⟨_, ⟨_, _⟩, declared, counted⟩ := Action.bind_eq_ok.mp head
    obtain ⟨rfl, streamed⟩ := Action.onSnd_eq_ok declared
    obtain ⟨kept, after, rfl⟩ := streamTo_noting_eq_ok streamed
    cases counted
    obtain ⟨offers, last, same, rfl⟩ := ih tail
    refine ⟨⟨accessor.declaration Accessor.hostAccess, kept⟩ :: offers, last, ?_, ?_⟩
    · rw [List.map_cons, List.map_cons, same]
    · simp
      omega

theorem send_classEnd_eq_ok
    (ran : (observed config services consumer).send .classEnd
      (⟨some host, pending, none, stats⟩, sent, record, state) = .ok () reached) :
    ∃ (offers : List Offer) (last : S),
      offers.map Offer.method = pending.entries.map (·.declaration Accessor.hostAccess) ∧
      reached = (⟨some host, .empty, none, { stats with
          accessors := stats.accessors + offers.length }⟩,
        sent ++ (offers.flatMap Offer.deliveries ++ [⟨.classEnd, .accepted⟩]), record, last) := by
  unfold observed at ran
  rw [send_classEnd] at ran
  obtain ⟨_, _, declares, ended⟩ := Action.bind_eq_ok.mp ran
  obtain ⟨offers, after, same, rfl⟩ := forM_declare_eq_ok declares
  obtain ⟨_, _, concluded, done⟩ := Action.bind_eq_ok.mp ended
  cases done
  rw [conclude_apply] at concluded
  obtain ⟨_, received, rfl⟩ := Action.onState_eq_ok.mp concluded
  obtain ⟨last, rfl⟩ := receive_noting_eq_ok received
  exact ⟨offers, last, same, by simp [Event.reception]⟩

end Ends

end ClassLowering

/-! ## Whole classes -/

theorem streamTo_observed_eq_ok {config : Config} {services : Services S} {consumer : Sink S}
    {file : ClassFile} {state last : S} {lowering : ClassLowering} {sent : List Delivery}
    {record : List Consultation}
    (ran : file.streamTo (ClassLowering.observed config services consumer) ({}, [], [], state) =
      .ok () (lowering, sent, record, last)) :
    ∃ (inputs accessors : List Offer) (pending : PendingAccessors),
      MethodsOffered services.declared config.metafactory (.ofHeader file.header) .empty
        file.methods inputs record pending ∧
      accessors.map Offer.method = pending.entries.map (·.declaration Accessor.hostAccess) ∧
      sent = ⟨.classHeader file.header, .accepted⟩ ::
        ((inputs ++ accessors).flatMap Offer.deliveries ++ [⟨.classEnd, .accepted⟩]) ∧
      lowering.stats = {
        callSites := (generatedIn record).length
        accessors := accessors.length
        hooks := (file.methods.filter (·.header.isDeserializationHook)).length } := by
  obtain ⟨_, _, started, afterStart⟩ := Action.bind_eq_ok.mp ran
  unfold ClassLowering.observed at started
  rw [ClassLowering.send_of_receive (ClassLowering.receive_classHeader config _ _ _ _ _),
    config.startState_onSnd, config.startState_recording] at started
  obtain ⟨_, passed, rfl⟩ := Action.onState_eq_ok.mp started
  obtain ⟨_, rfl⟩ := ClassLowering.send_noting_eq_ok (fun _ => rfl) passed
  obtain ⟨_, _, methods, ended⟩ := Action.bind_eq_ok.mp afterStart
  obtain ⟨inputs, asked, pending, _, derived, rfl⟩ := ClassLowering.forM_streamTo_eq_ok methods
  obtain ⟨accessors, _, same, reached⟩ := ClassLowering.send_classEnd_eq_ok ended
  cases reached
  exact ⟨inputs, accessors, pending, derived, same, by simp, by simp⟩

end LambdaLowering
