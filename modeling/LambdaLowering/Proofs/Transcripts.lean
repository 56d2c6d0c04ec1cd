import LambdaLowering.Proofs.Consumers
import LambdaLowering.Proofs.Deliveries
import LambdaLowering.Proofs.LoweredClass

/-! What the lowering of a class sends to any consumer.

The consumer decides which methods it keeps, of those of the class and of the accessors alike, and
it may fail on any event. Whatever it does, it is sent a class in the right order, or the start of
one up to the first failure.
-/

set_option autoImplicit false

namespace LambdaLowering

variable {S : Type}

/-- An instruction is sent as it is, or as the static call of some factory if it is a call site to
be lowered. -/
def Instruction.SentAs (metafactory : String) (one other : Instruction) : Prop :=
  match one.lambdaSite? metafactory with
  | none => other = one
  | some _ => ∃ factory : Factory,
    other = .invoke .invokestatic factory.owner factory.name factory.descriptor false

theorem Instruction.sentAs_self {metafactory : String} {one : Instruction}
    (plain : one.lambdaSite? metafactory = none) : one.SentAs metafactory one := by
  unfold SentAs
  rw [plain]

theorem Instruction.sentAs_call {metafactory : String} {one : Instruction} {site : CallSite}
    (found : one.lambdaSite? metafactory = some site) (factory : Factory) :
    one.SentAs metafactory factory.call := by
  unfold SentAs
  rw [found]
  exact ⟨factory, rfl⟩

theorem Instruction.exists_sentAs (metafactory : String) (one : Instruction) :
    ∃ other, one.SentAs metafactory other := by
  cases found : one.lambdaSite? metafactory with
  | none => exact ⟨one, sentAs_self found⟩
  | some site => exact ⟨_, sentAs_call found ⟨site.name, site.name, site.descriptor⟩⟩

/-- A method of the class is offered with its own header, and with one instruction for each. -/
structure Offer.Lowers (metafactory : String) (method : Method) (offer : Offer) : Prop where
  header : offer.method.header = method.header
  code : method.code.Forall₂ (Instruction.SentAs metafactory) offer.method.code

theorem exists_forall₂ {α β : Type} {related : α → β → Prop}
    (total : ∀ value, ∃ other, related value other) (values : List α) :
    ∃ others, values.Forall₂ related others := by
  choose other relates using total
  refine ⟨values.map other, ?_⟩
  rw [List.forall₂_map_right_iff, List.forall₂_same]
  exact fun value _ => relates value

/-- A method can be dropped, and there is code that it would have been lowered to. -/
theorem Offer.exists_dropped (metafactory : String) (method : Method) :
    ∃ offer : Offer, offer.Lowers metafactory method ∧ offer.kept = false ∧
      offer.deliveries = [⟨.methodHeader method.header, .dropped⟩] := by
  obtain ⟨lowered, code⟩ := exists_forall₂ (Instruction.exists_sentAs metafactory) method.code
  exact ⟨⟨⟨method.header, lowered⟩, false⟩, ⟨rfl, code⟩, rfl, rfl⟩

def Offer.keptSites (metafactory : String) (methods : List Method) (offers : List Offer) :
    List CallSite :=
  (methods.zip offers).flatMap fun (method, offer) =>
    if offer.kept then method.lambdaSites metafactory else []

/-- A whole class as a consumer may be sent it. The methods that stay are offered in their order,
then the accessors for the call sites of those that were kept, and the class end is last. -/
def ClassFile.Transcript (metafactory : String) (declared : Declarations) (file : ClassFile)
    (word : List Delivery) : Prop :=
  let host := HostClass.ofHeader file.header
  ∃ inputs accessors : List Offer, file.kept.Forall₂ (Offer.Lowers metafactory) inputs ∧
    accessors.map Offer.method =
      (PendingAccessors.plannedFor host (CallSite.needing host declared
        (Offer.keptSites metafactory file.kept inputs))).entries.map
          (·.declaration Accessor.hostAccess) ∧
    word = ⟨.classHeader file.header, .accepted⟩ ::
      ((inputs ++ accessors).flatMap Offer.deliveries ++ [⟨.classEnd, .accepted⟩])

def Accessor.Offered (accessors : List Accessor) (word : List Delivery) : Prop :=
  ∃ offers : List Offer, offers.map Offer.method =
    accessors.map (·.declaration Accessor.hostAccess) ∧ word = offers.flatMap Offer.deliveries

theorem Accessor.Offered.cons {accessors : List Accessor} {word : List Delivery}
    (offered : Offered accessors word) (accessor : Accessor) (kept : Bool) :
    Offered (accessor :: accessors)
      ((Offer.mk (accessor.declaration Accessor.hostAccess) kept).deliveries ++ word) := by
  obtain ⟨offers, same, rfl⟩ := offered
  exact ⟨⟨accessor.declaration Accessor.hostAccess, kept⟩ :: offers,
    congrArg (List.cons (accessor.declaration Accessor.hostAccess)) same, rfl⟩

theorem Accessor.exists_offered (accessors : List Accessor) : ∃ word, Offered accessors word := by
  induction accessors with
  | nil => exact ⟨_, [], rfl, rfl⟩
  | cons accessor accessors ih =>
    obtain ⟨word, offered⟩ := ih
    exact ⟨_, offered.cons accessor false⟩

/-! ## Inside a class -/

/-- The lowering stands inside a method of the host, and these targets need accessors so far. -/
def ClassLowering.InMethod (host : HostClass) (targets : List MethodRef)
    (state : ClassLowering × List Delivery × S) : Prop :=
  ∃ replaced stats, state.1 = ⟨some host, .plannedFor host targets, some replaced, stats⟩

def ClassLowering.InClass (host : HostClass) (targets : List MethodRef)
    (state : ClassLowering × List Delivery × S) : Prop :=
  ∃ stats, state.1 = ⟨some host, .plannedFor host targets, none, stats⟩

theorem Services.factoryFor_planned {services : Services S} {host : HostClass} {site : CallSite}
    {targets : List MethodRef} {factory : Factory} {last : PendingAccessors} {state stateLast : S}
    (ran : services.factoryFor host site (.plannedFor host targets, state) =
      .ok factory (last, stateLast)) :
    last = .plannedFor host (targets ++ CallSite.needing host services.declared [site]) := by
  obtain ⟨target, named, rfl⟩ := Services.factoryFor_admits ran
  rw [PendingAccessors.plannedFor_admitting]
  simp [CallSite.needing, named]

section Sending

open ClassLowering

variable {config : Config} {services : Services S} {consumer : Sink S} {host : HostClass}
variable {targets : List MethodRef} {reached : ClassLowering × List Delivery × S}

theorem send_instruction_sends (inMethod : InMethod host targets reached) (one : Instruction) :
    let words := fun word => ∃ other, one.SentAs config.metafactory other ∧
      word = [⟨.instruction other, .accepted⟩]
    Sends notedBehind (notedBehind reached) words
      (fun _ reached word => words word ∧ InMethod host (targets ++
        CallSite.needing host services.declared
          ([one].filterMap (·.lambdaSite? config.metafactory))) reached)
      ((sink config services.onSnd consumer.noting).send (.instruction one) reached) := by
  intro words
  obtain ⟨lowering, noted, state⟩ := reached
  obtain ⟨replaced, stats, rfl⟩ := inMethod
  cases found : one.lambdaSite? config.metafactory with
  | none =>
    have same := Instruction.sentAs_self found
    rw [send_instruction_plain config _ _ rfl rfl found]
    refine ((send_noting_sends consumer noted state (.instruction one) fun _ => rfl).behind
      _).mono ?_ ?_
    · rintro _ rfl
      exact ⟨one, same, rfl⟩
    · rintro _ _ _ ⟨⟨noted, state⟩, rfl, rfl⟩
      refine ⟨⟨one, same, rfl⟩, replaced, stats, ?_⟩
      simp [found, CallSite.needing]
  | some site =>
    have called := Instruction.sentAs_call found
    rw [send_instruction_site config _ _ rfl rfl found, Services.factoryFor_onSnd]
    cases ran : services.factoryFor host site (.plannedFor host targets, state) with
    | error error after =>
      -- Nothing was sent for the site. Any factory makes a word that this is the beginning of.
      let unmade : Factory := ⟨host.name, site.name, site.descriptor⟩
      exact .error (List.append_nil _).symm (.stopped unmade) ⟨_, called unmade, rfl⟩
    | ok factory after =>
      obtain ⟨last, stateLast⟩ := after
      obtain rfl := Services.factoryFor_planned ran
      simp only [Action.onState_ok]
      refine ((send_noting_sends consumer noted stateLast (.instruction factory.call)
        fun _ => rfl).behind _).mono ?_ ?_
      · rintro _ rfl
        exact ⟨_, called factory, rfl⟩
      · rintro _ _ _ ⟨⟨noted, state⟩, rfl, rfl⟩
        refine ⟨⟨_, called factory, rfl⟩, replaced + 1, stats, ?_⟩
        simp [found]

theorem forM_instructions_sends (inMethod : InMethod host targets reached)
    (code : List Instruction) :
    let words := fun word => ∃ lowered,
      code.Forall₂ (Instruction.SentAs config.metafactory) lowered ∧
        word = lowered.map (⟨.instruction ·, .accepted⟩)
    Sends notedBehind (notedBehind reached) words
      (fun _ reached word => words word ∧ InMethod host (targets ++
        CallSite.needing host services.declared
          (code.filterMap (·.lambdaSite? config.metafactory))) reached)
      (code.forM (fun one =>
        (sink config services.onSnd consumer.noting).send (.instruction one)) reached) := by
  induction code generalizing targets reached with
  | nil =>
    refine .ok (List.append_nil _).symm ⟨⟨[], .nil, rfl⟩, ?_⟩
    simpa [CallSite.needing] using inMethod
  | cons one code ih =>
    rw [Action.forM_cons]
    apply (send_instruction_sends inMethod one).bind
    · rintro _ ⟨other, first, rfl⟩
      obtain ⟨lowered, rest⟩ :=
        exists_forall₂ (Instruction.exists_sentAs config.metafactory) code
      exact ⟨_, other :: lowered, .cons first rest, rfl⟩
    · rintro _ reached _ ⟨⟨other, first, rfl⟩, inMethod⟩
      refine (ih inMethod).mono ?_ ?_
      · rintro _ ⟨lowered, rest, rfl⟩
        exact ⟨other :: lowered, .cons first rest, rfl⟩
      · rintro _ reached _ ⟨⟨lowered, rest, rfl⟩, inMethod⟩
        refine ⟨⟨other :: lowered, .cons first rest, rfl⟩, ?_⟩
        have sites : (one :: code).filterMap (·.lambdaSite? config.metafactory) =
            [one].filterMap (·.lambdaSite? config.metafactory) ++
              code.filterMap (·.lambdaSite? config.metafactory) := by
          rw [← List.filterMap_append, List.singleton_append]
        rwa [sites, CallSite.needing_append, ← List.append_assoc]

theorem open_sends {header : MethodHeader} (stays : header.isDeserializationHook = false)
    (inClass : InClass host targets reached) :
    Sends notedBehind (notedBehind reached) (fun word => word = [⟨.methodHeader header, .dropped⟩])
      (fun kept reached word =>
        word = [⟨.methodHeader header, if kept then .accepted else .dropped⟩] ∧
          if kept then InMethod host targets reached else InClass host targets reached)
      ((sink config services.onSnd consumer.noting).receive (.methodHeader header) reached) := by
  obtain ⟨lowering, noted, state⟩ := reached
  obtain ⟨stats, rfl⟩ := inClass
  have received := receive_methodHeader_noting_sends consumer noted state header
  rw [receive_methodHeader_kept _ _ _ stays]
  generalize consumer.noting.receive (.methodHeader header) (noted, state) = outcome at received ⊢
  cases received with
  | error sent cut whole => exact .error sent cut whole
  | @ok kept after word sent ended =>
    cases kept with
    | false => exact .ok sent ⟨ended, stats, rfl⟩
    | true => exact .ok sent ⟨ended, 0, stats, rfl⟩

theorem streamTo_sends {method : Method} (stays : method.header.isDeserializationHook = false)
    (inClass : InClass host targets reached) :
    Sends notedBehind (notedBehind reached)
      (fun word => ∃ offer : Offer, offer.Lowers config.metafactory method ∧
        word = offer.deliveries)
      (fun _ reached word => ∃ offer : Offer, offer.Lowers config.metafactory method ∧
        word = offer.deliveries ∧
        InClass host (targets ++ CallSite.needing host services.declared
          (if offer.kept then method.lambdaSites config.metafactory else [])) reached)
      (method.streamTo (sink config services.onSnd consumer.noting) reached) := by
  obtain ⟨dropped, lowers, unkept, unsent⟩ := Offer.exists_dropped config.metafactory method
  unfold Method.streamTo
  apply (open_sends stays inClass).bind
  · rintro _ rfl
    exact ⟨[], dropped, lowers, unsent.symm⟩
  · rintro kept reached _ ⟨rfl, position⟩
    cases kept with
    | false =>
      refine .ok (List.append_nil _).symm ⟨dropped, lowers, unsent.symm, ?_⟩
      simpa [CallSite.needing, unkept] using position
    | true =>
      simp only [↓reduceIte] at position ⊢
      apply (forM_instructions_sends position method.code).bind
      · rintro _ ⟨lowered, code, rfl⟩
        exact ⟨[⟨.methodEnd, .accepted⟩], ⟨⟨method.header, lowered⟩, true⟩, ⟨rfl, code⟩,
          (Offer.deliveries_kept ⟨method.header, lowered⟩).symm⟩
      · rintro _ ⟨lowering, noted, state⟩ _ ⟨⟨lowered, code, rfl⟩, replaced, stats, rfl⟩
        rw [send_methodEnd]
        have word := (Offer.deliveries_kept ⟨method.header, lowered⟩).symm
        refine ((send_noting_sends consumer noted state .methodEnd fun _ => rfl).behind _).mono
          ?_ ?_
        · rintro _ rfl
          exact ⟨⟨⟨method.header, lowered⟩, true⟩, ⟨rfl, code⟩, word⟩
        · rintro _ _ _ ⟨reached, rfl, rfl⟩
          exact ⟨⟨⟨method.header, lowered⟩, true⟩, ⟨rfl, code⟩, word, _, rfl⟩

theorem Offer.keptSites_cons (metafactory : String) (method : Method) (methods : List Method)
    (offer : Offer) (offers : List Offer) :
    keptSites metafactory (method :: methods) (offer :: offers) =
      (if offer.kept then method.lambdaSites metafactory else []) ++
        keptSites metafactory methods offers := rfl

theorem forM_streamTo_sends (inClass : InClass host targets reached) (methods : List Method) :
    let stay := methods.filter (!·.header.isDeserializationHook)
    Sends notedBehind (notedBehind reached)
      (fun word => ∃ offers, stay.Forall₂ (Offer.Lowers config.metafactory) offers ∧
        word = offers.flatMap Offer.deliveries)
      (fun _ reached word => ∃ offers, stay.Forall₂ (Offer.Lowers config.metafactory) offers ∧
        word = offers.flatMap Offer.deliveries ∧
        InClass host (targets ++ CallSite.needing host services.declared
          (Offer.keptSites config.metafactory stay offers)) reached)
      (methods.forM (·.streamTo (sink config services.onSnd consumer.noting)) reached) := by
  induction methods generalizing targets reached with
  | nil =>
    refine .ok (List.append_nil _).symm ⟨[], .nil, rfl, ?_⟩
    simpa [CallSite.needing, Offer.keptSites] using inClass
  | cons method methods ih =>
    intro stay
    rw [Action.forM_cons]
    cases hook : method.header.isDeserializationHook with
    | true =>
      obtain ⟨lowering, noted, state⟩ := reached
      obtain ⟨stats, rfl⟩ := inClass
      have same : stay = methods.filter (!·.header.isDeserializationHook) :=
        List.filter_cons_of_neg (by simp [hook])
      have still : InClass host targets
          (⟨some host, .plannedFor host targets, none, { stats with hooks := stats.hooks + 1 }⟩,
            noted, services.log (.hookDropped method.header.signature) state) := ⟨_, rfl⟩
      rw [Action.bind_of_ok (streamTo_hook config services.onSnd _ hook _ _), same]
      exact ih still
    | false =>
      have same : stay = method :: methods.filter (!·.header.isDeserializationHook) :=
        List.filter_cons_of_pos (by simp [hook])
      rw [same]
      apply (streamTo_sends hook inClass).bind
      · rintro _ ⟨offer, lowers, rfl⟩
        have offered := fun method =>
          (Offer.exists_dropped config.metafactory method).imp fun _ dropped => dropped.1
        obtain ⟨offers, rest⟩ :=
          exists_forall₂ offered (methods.filter (!·.header.isDeserializationHook))
        exact ⟨_, offer :: offers, .cons lowers rest, rfl⟩
      · rintro _ reached _ ⟨offer, lowers, rfl, inClass⟩
        refine (ih inClass).mono ?_ ?_
        · rintro _ ⟨offers, rest, rfl⟩
          exact ⟨offer :: offers, .cons lowers rest, rfl⟩
        · rintro _ reached _ ⟨offers, rest, rfl, inClass⟩
          refine ⟨offer :: offers, .cons lowers rest, rfl, ?_⟩
          rwa [Offer.keptSites_cons, CallSite.needing_append, ← List.append_assoc]

theorem declare_sends (reached : ClassLowering × List Delivery × S) (accessor : Accessor) :
    let words := fun word =>
      ∃ kept, word = (Offer.mk (accessor.declaration Accessor.hostAccess) kept).deliveries
    Sends notedBehind (notedBehind reached) words (fun _ _ word => words word)
      (declare consumer.noting accessor reached) := by
  intro words
  obtain ⟨lowering, noted, state⟩ := reached
  have streamed := (streamTo_noting_sends consumer noted state
    (accessor.declaration Accessor.hostAccess)).behind lowering
  rw [← Action.onSnd_apply] at streamed
  unfold declare
  apply streamed.bind
  · rintro _ ⟨kept, rfl⟩
    exact ⟨[], kept, List.append_nil _⟩
  · rintro _ _ _ ⟨reached, rfl, kept, rfl⟩
    exact .ok (List.append_nil _).symm ⟨kept, List.append_nil _⟩

theorem forM_declare_sends (reached : ClassLowering × List Delivery × S)
    (accessors : List Accessor) :
    Sends notedBehind (notedBehind reached) (Accessor.Offered accessors)
      (fun _ _ word => Accessor.Offered accessors word)
      (accessors.forM (declare consumer.noting) reached) := by
  induction accessors generalizing reached with
  | nil => exact .ok (List.append_nil _).symm ⟨[], rfl, rfl⟩
  | cons accessor accessors ih =>
    rw [Action.forM_cons]
    apply (declare_sends reached accessor).bind
    · rintro _ ⟨kept, rfl⟩
      obtain ⟨rest, offered⟩ := Accessor.exists_offered accessors
      exact ⟨rest, offered.cons accessor kept⟩
    · rintro _ reached _ ⟨kept, rfl⟩
      exact (ih reached).mono (fun _ offered => offered.cons accessor kept)
        (fun _ _ _ offered => offered.cons accessor kept)

theorem conclude_sends (reached : ClassLowering × List Delivery × S) :
    Sends notedBehind (notedBehind reached) (fun word => word = [⟨.classEnd, .accepted⟩])
      (fun _ _ word => word = [⟨.classEnd, .accepted⟩])
      (conclude services.onSnd consumer.noting reached) := by
  obtain ⟨lowering, noted, state⟩ := reached
  have received := fun after =>
    (receive_noting_sends consumer noted after .classEnd fun _ => rfl).behind lowering
  rw [conclude_apply]
  -- What is changed is reported to the collaborators, so it is not noted.
  have concluded : ∀ after : S, Sends notedBehind noted
      (fun word => word = [⟨.classEnd, .accepted⟩])
      (fun _ _ word => word = [⟨.classEnd, .accepted⟩])
      (Action.onState (lowering, ·) (consumer.noting.receive .classEnd (noted, after))) := by
    intro after
    refine (received after).mono (fun _ same => same) ?_
    rintro _ _ _ ⟨_, _, rfl⟩
    rfl
  cases lowering.host with
  | none => exact concluded _
  | some host => exact concluded _

theorem send_classEnd_sends (inClass : InClass host targets reached) :
    let words := fun word => ∃ accessors,
      Accessor.Offered (PendingAccessors.plannedFor host targets).entries accessors ∧
        word = accessors ++ [⟨.classEnd, .accepted⟩]
    Sends notedBehind (notedBehind reached) words (fun _ _ word => words word)
      ((sink config services.onSnd consumer.noting).send .classEnd reached) := by
  intro words
  obtain ⟨lowering, noted, state⟩ := reached
  obtain ⟨stats, rfl⟩ := inClass
  rw [send_classEnd]
  apply (forM_declare_sends (⟨some host, .empty, none, stats⟩, noted, state)
    (PendingAccessors.plannedFor host targets).entries).bind
  · intro accessors offered
    exact ⟨_, accessors, offered, rfl⟩
  · intro _ reached accessors offered
    apply (conclude_sends reached).bind
    · rintro _ rfl
      exact ⟨[], accessors, offered, rfl⟩
    · rintro _ reached _ rfl
      exact .ok (List.append_nil _).symm ⟨accessors, offered, rfl⟩

theorem send_classHeader_sends (header : ClassHeader) (state : S) :
    Sends notedBehind [] (fun word => word = [⟨.classHeader header, .accepted⟩])
      (fun _ reached word => word = [⟨.classHeader header, .accepted⟩] ∧
        InClass (.ofHeader header) [] reached)
      ((sink config services.onSnd consumer.noting).send (.classHeader header)
        ({}, [], state)) := by
  rw [send_of_receive (receive_classHeader config _ _ header _ _), config.startState_onSnd]
  refine ((send_noting_sends consumer [] (config.startState services state) (.classHeader header)
    fun _ => rfl).behind _).mono (fun _ same => same) ?_
  rintro _ _ _ ⟨reached, rfl, rfl⟩
  exact ⟨rfl, {}, rfl⟩

theorem streamClass_sends (config : Config) (services : Services S) (consumer : Sink S)
    (file : ClassFile) (state : S) :
    let words := file.Transcript config.metafactory services.declared
    Sends notedBehind [] words (fun _ _ word => words word)
      (file.streamTo (sink config services.onSnd consumer.noting) ({}, [], state)) := by
  intro words
  let host := HostClass.ofHeader file.header
  have complete : ∀ inputs, file.kept.Forall₂ (Offer.Lowers config.metafactory) inputs →
      ∀ accessors, Accessor.Offered (PendingAccessors.plannedFor host (CallSite.needing host
        services.declared (Offer.keptSites config.metafactory file.kept inputs))).entries
          accessors →
      words ([⟨.classHeader file.header, .accepted⟩] ++ (inputs.flatMap Offer.deliveries ++
        (accessors ++ [⟨.classEnd, .accepted⟩]))) := by
    rintro inputs lowers _ ⟨accessors, declared, rfl⟩
    exact ⟨inputs, accessors, lowers, declared, by simp⟩
  unfold ClassFile.streamTo
  apply (send_classHeader_sends file.header state).bind
  · rintro _ rfl
    have dropped := fun method =>
      (Offer.exists_dropped config.metafactory method).imp fun _ dropped => dropped.1
    obtain ⟨inputs, lowers⟩ := exists_forall₂ dropped file.kept
    obtain ⟨accessors, offered⟩ := Accessor.exists_offered _
    exact ⟨_, complete inputs lowers accessors offered⟩
  · rintro _ reached _ ⟨rfl, inClass⟩
    apply (forM_streamTo_sends inClass file.methods).bind
    · rintro _ ⟨inputs, lowers, rfl⟩
      obtain ⟨accessors, offered⟩ := Accessor.exists_offered _
      exact ⟨_, complete inputs lowers accessors offered⟩
    · rintro _ reached _ ⟨inputs, lowers, rfl, inClass⟩
      refine (send_classEnd_sends inClass).mono ?_ ?_
      · rintro _ ⟨accessors, offered, rfl⟩
        exact complete inputs lowers accessors offered
      · rintro _ _ _ ⟨accessors, offered, rfl⟩
        exact complete inputs lowers accessors offered

end Sending

/-! ## Whole runs -/

theorem Sink.noting_simulate (consumer : Sink S) :
    Sink.Simulate (fun noted plain => noted.2 = plain) consumer.noting consumer := by
  rintro event ⟨noted, state⟩ _ rfl
  simp only [Sink.noting]
  cases consumer.receive event state with
  | ok kept after => exact .ok ⟨rfl, rfl⟩
  | error error after => exact .error rfl

theorem streamTo_sink_noting (config : Config) (services : Services S) (consumer : Sink S)
    (file : ClassFile) (noted : List Delivery) (state : S) :
    file.streamTo (ClassLowering.sink config services consumer) ({}, state) =
      Action.onState (fun reached => (reached.1, reached.2.2))
        (file.streamTo (ClassLowering.sink config services.onSnd consumer.noting)
          ({}, noted, state)) := by
  -- A consumer with its notes answers as it does without them.
  have simulate : Sink.Simulate _ (ClassLowering.sink config services.onSnd consumer.noting)
      (ClassLowering.sink config services consumer) :=
    ClassLowering.sink_simulate services.onSnd_simulate_plain rfl consumer.noting_simulate
  symm
  apply (simulate.streamClass file (Beside.mk rfl)).onState_eq
  · rintro _ _ _ _ ⟨_, ⟨rfl⟩⟩
    rfl
  · rintro _ _ ⟨rfl⟩
    rfl

theorem ClassFile.Transcript.unfailing {metafactory : String} {declared : Declarations}
    {file : ClassFile} {word : List Delivery}
    (transcript : file.Transcript metafactory declared word) {delivery : Delivery}
    (member : delivery ∈ word) (error : Error) : delivery.reception ≠ .failed error := by
  obtain ⟨inputs, accessors, _, _, rfl⟩ := transcript
  have offered : ∀ offer : Offer, ∀ delivery ∈ offer.deliveries,
      delivery.reception ≠ .failed error := by
    rintro ⟨method, _ | _⟩ delivery member
    · cases List.mem_singleton.mp member
      simp
    · obtain ⟨event, _, rfl⟩ := List.mem_map.mp member
      simp
  simp only [List.mem_cons, List.mem_append, List.mem_flatMap, List.not_mem_nil, or_false] at member
  rcases member with rfl | ⟨offer, _, member⟩ | rfl
  · simp
  · exact offered offer delivery member
  · simp

/-- Whatever a consumer answers, and on whatever event it fails, it is sent a transcript of the
class or the start of one. Nothing comes after an event on which it fails, and with that failure the
run ends. If the run does not fail, the transcript is whole: first the class header, then the
methods that stay, then all the accessors, and last the class end. The accessors are sent as
`Accessor.declaration` has them. -/
theorem streamTo_sink_transcript (config : Config) (services : Services S) (consumer : Sink S)
    (file : ClassFile) (state : S) :
    let run := file.streamTo (ClassLowering.sink config services.onSnd consumer.noting)
      ({}, [], state)
    let sent := notedBehind (Action.stateAfter run)
    file.streamTo (ClassLowering.sink config services consumer) ({}, state) =
      Action.onState (fun reached => (reached.1, reached.2.2)) run ∧
    ∃ word, file.Transcript config.metafactory services.declared word ∧
      sent.map Delivery.event <+: word.map Delivery.event ∧
      (∀ before delivery after error, sent = before ++ delivery :: after →
        delivery.reception = .failed error → after = [] ∧ Action.answerOf run = .error error) ∧
      (Action.answerOf run = .ok () → sent = word) ∧
      ∀ error, Action.answerOf run = .error error → CutShort error sent word := by
  intro run sent
  refine ⟨streamTo_sink_noting config services consumer file [] state, ?_⟩
  have sends := streamClass_sends config services consumer file state
  simp only [sent]
  change Sends _ _ _ _ run at sends
  generalize run = outcome at sends
  cases sends with
  | @ok _ reached word noted transcript =>
    have same : notedBehind reached = word := noted
    rw [Action.stateAfter, same]
    refine ⟨word, transcript, List.prefix_refl _, ?failure, fun _ => rfl, ?cut⟩
    case failure =>
      intro before delivery after error split failed
      have member : delivery ∈ word := by simp [split]
      exact absurd failed (transcript.unfailing member error)
    case cut =>
      intro error answer
      cases answer
  | @error error reached part word noted cut transcript =>
    have same : notedBehind reached = part := noted
    rw [Action.stateAfter, same]
    refine ⟨word, transcript, cut.map_event_prefix, ?failure, ?whole, ?cut⟩
    case failure =>
      intro before delivery after other split failed
      have last := cut.eq_nil_of_failed (fun _ member => transcript.unfailing member) split failed
      exact ⟨last.1, congrArg Except.error last.2.symm⟩
    case whole =>
      intro answer
      cases answer
    case cut =>
      intro other answer
      cases answer
      exact cut

namespace PrivateBody

/-- A consumer that does not keep the private body, and fails on the accessor for it. -/
def wary : Sink Unit where
  receive
    | .methodHeader header =>
      if header.name = "access$lambda$0" then throw (.reification header.name)
      else return header.name != "body"
    | _ => return true

example :
    notedBehind (Action.stateAfter (file.streamTo
      (ClassLowering.sink {} services.onSnd wary.noting) ({}, [], ()))) =
    [⟨.classHeader file.header, .accepted⟩, ⟨.methodHeader run.header, .accepted⟩,
      ⟨.instruction (.invoke .invokestatic "a/M$0" "make" site.descriptor false), .accepted⟩,
      ⟨.instruction (.simple .voidReturn), .accepted⟩, ⟨.methodEnd, .accepted⟩,
      ⟨.methodHeader body.header, .dropped⟩,
      ⟨.methodHeader (.plain (.ofFlags [.isStatic, .isSynthetic]) "access$lambda$0" ⟨[], .void⟩),
        .failed (.reification "access$lambda$0")⟩] := by
  rfl

end PrivateBody

end LambdaLowering
