import LambdaLowering.Proofs.Offers
import LambdaLowering.Proofs.Promises
import LambdaLowering.Proofs.UnwantedMethods

/-! What is counted while a class is lowered.

The counts of a run that comes to its end are compared with what the collaborators were asked and
with what the consumer was sent. A method that is dropped counts for nothing, but a dropped accessor
counts.
-/

set_option autoImplicit false

namespace LambdaLowering

variable {S : Type}

/-! ## Requests and replacements -/

/-- The request for a lambda class, whether or not one was generated. -/
def Consultation.request? : Consultation → Option LambdaRequest
  | .reify request _ => some request
  | .load _ _ => none

def requestsIn (record : List Consultation) : List LambdaRequest :=
  record.filterMap Consultation.request?

@[simp] theorem requestsIn_append (first second : List Consultation) :
    requestsIn (first ++ second) = requestsIn first ++ requestsIn second :=
  List.filterMap_append

/-- What stands in one piece of code where another has its lambda call sites. -/
def replacements (metafactory : String) (code lowered : List Instruction) : List Instruction :=
  (code.zip lowered).filterMap fun (one, other) => (one.lambdaSite? metafactory).map fun _ => other

def Offer.keptReplacements (metafactory : String) (methods : List Method) (offers : List Offer) :
    List Instruction :=
  (methods.zip offers).flatMap fun (method, offer) =>
    if offer.kept then replacements metafactory method.code offer.method.code else []

def keptHeaders (sent : List Delivery) : List MethodHeader :=
  sent.filterMap fun
    | ⟨.methodHeader header, .accepted⟩ => some header
    | _ => none

theorem keptHeaders_deliveries (offers : List Offer) :
    keptHeaders (offers.flatMap Offer.deliveries) =
      (offers.filter Offer.kept).map (·.method.header) := by
  induction offers with
  | nil => rfl
  | cons offer offers ih =>
    have code (code : List Instruction) :
        keptHeaders (code.map (⟨.instruction ·, .accepted⟩)) = [] := by
      simp [keptHeaders]
    obtain ⟨method, _ | _⟩ := offer
    · exact ih
    · have instructions := code method.code
      unfold keptHeaders at ih instructions ⊢
      rw [List.flatMap_cons, List.filterMap_append, ih, Offer.deliveries_kept]
      simp [instructions]

/-! ## What derivations tell -/

section Derivations

variable {declared : Declarations} {metafactory : String} {host : HostClass}
variable {pending last : PendingAccessors} {record : List Consultation}

theorem CodeLowered.requests {code lowered : List Instruction}
    (derived : CodeLowered declared metafactory host pending code lowered record last) :
    requestsIn record = (generatedIn record).map Prod.fst := by
  induction derived with
  | nil => rfl
  | plain plain rest ih => exact ih
  | site found served rest ih =>
    rw [requestsIn_append, generatedIn_append, List.map_append, ih]
    cases served <;> rfl

theorem CodeLowered.replacements_eq {code lowered : List Instruction}
    (derived : CodeLowered declared metafactory host pending code lowered record last) :
    replacements metafactory code lowered =
      (generatedIn record).map fun entry => entry.2.call := by
  induction derived with
  | nil => rfl
  | plain plain rest ih =>
    rw [← ih]
    simp [replacements, plain]
  | site found served rest ih =>
    obtain ⟨invoker, target, callee, named, here⟩ := served.generated
    rw [generatedIn_append, here, List.map_append, ← ih]
    simp [replacements, found]

namespace MethodsOffered

variable {methods : List Method} {offers : List Offer}
variable (derived : MethodsOffered declared metafactory host pending methods offers record last)

include derived

theorem requests : requestsIn record = (generatedIn record).map Prod.fst := by
  induction derived with
  | nil => rfl
  | hook hook rest ih => exact ih
  | dropped ordinary lowers unkept rest ih => exact ih
  | kept ordinary body rest ih =>
    rw [requestsIn_append, generatedIn_append, List.map_append, body.requests, ih]

theorem length_generated :
    (generatedIn record).length = (Offer.keptSites metafactory
      (methods.filter (!·.header.isDeserializationHook)) offers).length := by
  induction derived with
  | nil => rfl
  | hook hook rest ih => rw [ih, List.filter_cons_of_neg (by simp [hook])]
  | dropped ordinary lowers unkept rest ih =>
    rw [ih, List.filter_cons_of_pos (by simp [ordinary]), Offer.keptSites_cons, unkept]
    rfl
  | kept ordinary body rest ih =>
    rw [List.filter_cons_of_pos (by simp [ordinary]), Offer.keptSites_cons, generatedIn_append,
      List.length_append, List.length_append, ih, body.length_generated]
    rfl

theorem replacements_eq :
    Offer.keptReplacements metafactory (methods.filter (!·.header.isDeserializationHook)) offers =
      (generatedIn record).map fun entry => entry.2.call := by
  induction derived with
  | nil => rfl
  | hook hook rest ih => rw [← ih, List.filter_cons_of_neg (by simp [hook])]
  | dropped ordinary lowers unkept rest ih =>
    rw [← ih, List.filter_cons_of_pos (by simp [ordinary])]
    simp [Offer.keptReplacements, unkept]
  | kept ordinary body rest ih =>
    rw [List.filter_cons_of_pos (by simp [ordinary]), generatedIn_append, List.map_append, ← ih,
      ← body.replacements_eq]
    rfl

end MethodsOffered

end Derivations

/-! ## Counts -/

/-- In a run that comes to its end, the hooks that count are those of the class. The call sites that
count are those of the methods that the consumer kept. As many lambda classes were asked for, and as
many calls were sent in place of a call site: each is the call of the factory that was generated.
The accessors, written as `Accessor.declaration`, have no call sites and do not count here. -/
theorem streamTo_sink_stats {config : Config} {services : Services S} {consumer : Sink S}
    {file : ClassFile} {state last : S} {lowering : ClassLowering}
    (ran : file.streamTo (ClassLowering.sink config services consumer) ({}, state) =
      .ok () (lowering, last)) :
    ∃ (sent : List Delivery) (record : List Consultation) (inputs accessors : List Offer),
      file.streamTo (ClassLowering.observed config services consumer) ({}, [], [], state) =
        .ok () (lowering, sent, record, last) ∧
      sent = ⟨.classHeader file.header, .accepted⟩ ::
        ((inputs ++ accessors).flatMap Offer.deliveries ++ [⟨.classEnd, .accepted⟩]) ∧
      file.kept.Forall₂ (Offer.Lowers config.metafactory) inputs ∧
      lowering.stats.hooks = (file.methods.filter (·.header.isDeserializationHook)).length ∧
      lowering.stats.callSites = (Offer.keptSites config.metafactory file.kept inputs).length ∧
      lowering.stats.callSites = (requestsIn record).length ∧
      lowering.stats.callSites =
        (Offer.keptReplacements config.metafactory file.kept inputs).length ∧
      Offer.keptReplacements config.metafactory file.kept inputs =
        (generatedIn record).map fun entry =>
          .invoke .invokestatic entry.2.owner entry.2.name entry.2.descriptor false := by
  rw [ClassLowering.streamTo_observed] at ran
  obtain ⟨⟨_, sent, record, _⟩, observed, same⟩ := Action.onState_eq_ok.mp ran
  cases same
  obtain ⟨inputs, accessors, _, derived, _, whole, counted⟩ := streamTo_observed_eq_ok observed
  refine ⟨sent, record, inputs, accessors, observed, whole, derived.lowers, ?_, ?_, ?_, ?_,
    derived.replacements_eq⟩
  · rw [counted]
  · rw [counted]
    exact derived.length_generated
  · rw [counted, derived.requests, List.length_map]
  · rw [counted]
    -- One call was sent for every class that was generated.
    have replaced := congrArg List.length derived.replacements_eq
    rw [List.length_map] at replaced
    exact replaced.symm

def Sink.everything : Sink S := ⟨fun _ => pure true⟩

namespace PrivateBody

/-- How a lowering ends that has removed the hook, replaced one site and declared its accessor. -/
def ended : ClassLowering := { host := some (.ofHeader file.header), stats := ⟨1, 1, 1⟩ }

theorem streamTo_doubled :
    doubled.streamTo (ClassLowering.sink {} services (Sink.everything.dropping undesired))
      ({}, ()) = .ok () (ended, ()) := by
  with_unfolding_all rfl

end PrivateBody

/-- Of the two methods with a call site one is dropped. The other counts, and so does the hook. -/
theorem streamTo_sink_stats_doubled :
    let consumer : Sink Unit := Sink.everything.dropping PrivateBody.undesired
    ∃ lowering, PrivateBody.doubled.streamTo (ClassLowering.sink {} PrivateBody.services consumer)
        ({}, ()) = .ok () (lowering, ()) ∧
      lowering.stats = { callSites := 1, accessors := 1, hooks := 1 } ∧
      ∃ sent record,
        PrivateBody.doubled.streamTo (ClassLowering.observed {} PrivateBody.services consumer)
          ({}, [], [], ()) = .ok () (lowering, sent, record, ()) ∧
        (requestsIn record).length = 1 := by
  intro consumer
  obtain ⟨sent, record, _, _, observed, _, _, _, _, requested, _⟩ :=
    streamTo_sink_stats PrivateBody.streamTo_doubled
  exact ⟨_, PrivateBody.streamTo_doubled, rfl, sent, record, observed, requested.symm⟩

/-- The accessors that count are all that were offered, which are those for the call sites of the
methods that the consumer kept. So the count is the number of accessors that the consumer has added
just if it dropped none of them. Each is offered as `Accessor.declaration` has it. -/
theorem streamTo_sink_accessors {config : Config} {services : Services S} {consumer : Sink S}
    {file : ClassFile} {state last : S} {lowering : ClassLowering}
    (ran : file.streamTo (ClassLowering.sink config services consumer) ({}, state) =
      .ok () (lowering, last)) :
    let host := HostClass.ofHeader file.header
    ∃ (sent : List Delivery) (record : List Consultation) (inputs accessors : List Offer),
      file.streamTo (ClassLowering.observed config services consumer) ({}, [], [], state) =
        .ok () (lowering, sent, record, last) ∧
      sent = ⟨.classHeader file.header, .accepted⟩ ::
        ((inputs ++ accessors).flatMap Offer.deliveries ++ [⟨.classEnd, .accepted⟩]) ∧
      file.kept.Forall₂ (Offer.Lowers config.metafactory) inputs ∧
      accessors.map Offer.method =
        (PendingAccessors.plannedFor host (CallSite.needing host services.declared
          (Offer.keptSites config.metafactory file.kept inputs))).entries.map
            (·.declaration Accessor.hostAccess) ∧
      keptHeaders sent = (inputs.filter Offer.kept).map (·.method.header) ++
        (accessors.filter Offer.kept).map (·.method.header) ∧
      lowering.stats.accessors =
        (accessors.filter Offer.kept).length + (accessors.filter (!·.kept)).length ∧
      (lowering.stats.accessors = (accessors.filter Offer.kept).length ↔
        ∀ offer ∈ accessors, offer.kept = true) := by
  intro host
  rw [ClassLowering.streamTo_observed] at ran
  obtain ⟨⟨_, sent, record, _⟩, observed, same⟩ := Action.onState_eq_ok.mp ran
  cases same
  obtain ⟨inputs, accessors, pending, derived, declared, whole, counted⟩ :=
    streamTo_observed_eq_ok observed
  -- Only the sites of methods that were kept have planned accessors.
  have none : PendingAccessors.empty = .plannedFor host [] := rfl
  rw [derived.pending_eq none] at declared
  refine ⟨sent, record, inputs, accessors, observed, whole, derived.lowers, declared, ?_, ?_, ?_⟩
  · have kept := keptHeaders_deliveries (inputs ++ accessors)
    rw [List.filter_append, List.map_append] at kept
    rw [← kept, whole]
    simp [keptHeaders]
  · rw [counted]
    exact List.length_eq_length_filter_add Offer.kept
  · rw [counted, eq_comm]
    exact List.length_filter_eq_length_iff

/-- The accessor for the one site that is kept is added, and it counts. -/
theorem streamTo_sink_accessors_doubled :
    let consumer : Sink Unit := Sink.everything.dropping PrivateBody.undesired
    ∃ lowering, PrivateBody.doubled.streamTo (ClassLowering.sink {} PrivateBody.services consumer)
        ({}, ()) = .ok () (lowering, ()) ∧
      ∃ (sent : List Delivery) (record : List Consultation) (inputs accessors : List Offer),
        PrivateBody.doubled.streamTo (ClassLowering.observed {} PrivateBody.services consumer)
          ({}, [], [], ()) = .ok () (lowering, sent, record, ()) ∧
        keptHeaders sent = (inputs.filter Offer.kept).map (·.method.header) ++
          (accessors.filter Offer.kept).map (·.method.header) ∧
        1 = (accessors.filter Offer.kept).length + (accessors.filter (!·.kept)).length := by
  intro consumer
  obtain ⟨sent, record, inputs, accessors, observed, _, _, _, kept, counted, _⟩ :=
    streamTo_sink_accessors PrivateBody.streamTo_doubled
  exact ⟨_, PrivateBody.streamTo_doubled, sent, record, inputs, accessors, observed, kept, counted⟩

theorem Sink.everything_dropping_unfailing (unwanted : MethodSignature → Bool) (event : Event)
    (state : S) :
    ∃ kept after, (everything.dropping unwanted).receive event state = .ok kept after := by
  cases event with
  | methodHeader header =>
    cases drops : unwanted header.signature with
    | true => exact ⟨false, state, congrFun (if_pos drops) state⟩
    | false =>
      exact ⟨true, state, congrFun (everything.receive_dropping_wanted unwanted drops) state⟩
  | _ => exact ⟨true, state, rfl⟩

namespace PrivateBody

/-- What the lowering sends to a consumer that drops the accessor. -/
def sentWithoutAccessor : List Delivery :=
  ⟨.classHeader file.header, .accepted⟩ ::
    Offer.deliveries ⟨⟨run.header, [factory.call, .simple .voidReturn]⟩, true⟩ ++
    Offer.deliveries ⟨body, true⟩ ++ Offer.deliveries ⟨accessor, false⟩ ++ [⟨.classEnd, .accepted⟩]

def consultations : List Consultation :=
  [.load "a/M" (.ok ⟨"a/M"⟩), .reify request (.ok factory)]

end PrivateBody

/-- The consumer never fails and drops the accessor for the private body. What it keeps are the two
methods of the class, and still one accessor counts. -/
theorem dropped_accessor_counts :
    let consumer : Sink Unit := Sink.everything.dropping (·.name == "access$lambda$0")
    (∀ event state, ∃ kept after, consumer.receive event state = .ok kept after) ∧
    ∃ lowering sent record,
      PrivateBody.file.streamTo (ClassLowering.sink {} PrivateBody.services consumer) ({}, ()) =
        .ok () (lowering, ()) ∧
      PrivateBody.file.streamTo (ClassLowering.observed {} PrivateBody.services consumer)
        ({}, [], [], ()) = .ok () (lowering, sent, record, ()) ∧
      keptHeaders sent = [PrivateBody.run.header, PrivateBody.body.header] ∧
      lowering.stats.accessors = 1 := by
  intro consumer
  refine ⟨Sink.everything_dropping_unfailing _,
    PrivateBody.ended, PrivateBody.sentWithoutAccessor, PrivateBody.consultations, ?_, ?_, rfl, rfl⟩
  · with_unfolding_all rfl
  · with_unfolding_all rfl

end LambdaLowering
