import LambdaLowering.Proofs.Requests

/-! A consumer that does not want all methods of a class.

Unwanted methods are dropped behind the lowering, in the middle of the class and again among the
accessors at its end. It is as if the class had never had them: their call sites ask for nothing and
take no number, and only the accessors that are unwanted themselves are missing from the outcome.
-/

set_option autoImplicit false

namespace LambdaLowering

variable {S T α β : Type}

/-- The same consumer, but unwanted methods are not kept, and it does not hear of them. -/
def Sink.dropping (consumer : Sink S) (unwanted : MethodSignature → Bool) : Sink S where
  receive
    | .methodHeader header =>
      if unwanted header.signature then pure false else consumer.receive (.methodHeader header)
    | event => consumer.receive event

namespace ClassFile

/-- The class without the unwanted methods. The hook stays, since the lowering leaves it out. -/
def without (file : ClassFile) (unwanted : MethodSignature → Bool) : ClassFile :=
  { file with methods := file.methods.filter fun method =>
      method.header.isDeserializationHook || !unwanted method.signature }

def wanting (file : ClassFile) (unwanted : MethodSignature → Bool) : ClassFile :=
  { file with methods := file.methods.filter fun method => !unwanted method.signature }

theorem kept_without (file : ClassFile) (unwanted : MethodSignature → Bool) :
    (file.without unwanted).kept = file.kept.filter fun method => !unwanted method.signature := by
  simp only [kept, without, List.filter_filter]
  congr 1
  funext method
  cases method.header.isDeserializationHook <;> simp

end ClassFile

/-- Lower one class with a builder behind the lowering that does not get the unwanted methods. -/
def lowerClassDropping (config : Config) (services : Services S)
    (unwanted : MethodSignature → Bool) (file : ClassFile) : Action S ClassFile := do
  let lowered := file.streamTo
    (ClassLowering.sink config services.onSnd (ClassBuilder.sink.dropping unwanted))
  let (_, builder) ← Action.withOwn .initial (Action.withOwn {} lowered)
  Action.ofExcept builder.finish

/-! ## Methods of the class -/

theorem Method.streamTo_congr {first second : Sink S} {method : Method}
    (opens : first.receive (.methodHeader method.header) =
      second.receive (.methodHeader method.header))
    (inside : ∀ one, first.receive (.instruction one) = second.receive (.instruction one))
    (closes : first.receive .methodEnd = second.receive .methodEnd) :
    method.streamTo first = method.streamTo second := by
  simp only [Method.streamTo, Sink.send, opens, inside, closes]

section Methods

variable (config : Config) (services : Services S) (consumer : Sink S)
variable (unwanted : MethodSignature → Bool)

theorem Sink.receive_dropping_wanted {header : MethodHeader}
    (wanted : unwanted header.signature = false) :
    (consumer.dropping unwanted).receive (.methodHeader header) =
      consumer.receive (.methodHeader header) := by
  simp [Sink.dropping, wanted]

theorem Method.streamTo_dropping_unwanted {method : Method} (drops : unwanted method.signature) :
    method.streamTo (consumer.dropping unwanted) = pure () := by
  have refused : (consumer.dropping unwanted).receive (.methodHeader method.header) =
      pure false := if_pos drops
  rw [Method.streamTo, refused]
  rfl

theorem Method.streamTo_dropping_wanted {method : Method}
    (wanted : unwanted method.signature = false) :
    method.streamTo (consumer.dropping unwanted) = method.streamTo consumer :=
  Method.streamTo_congr (consumer.receive_dropping_wanted unwanted wanted) (fun _ => rfl) rfl

namespace ClassLowering

/-- An unwanted method leaves no trace in the lowering. -/
theorem streamTo_unwanted {method : Method} (stays : method.header.isDeserializationHook = false)
    (drops : unwanted method.signature) :
    method.streamTo (sink config services (consumer.dropping unwanted)) = pure () := by
  funext ⟨lowering, state⟩
  have refused : (consumer.dropping unwanted).receive (.methodHeader method.header) state =
      .ok false state := by
    change (if unwanted method.signature then pure false else _ : Action S Bool) state = _
    rw [if_pos drops]
    rfl
  have received : (sink config services (consumer.dropping unwanted)).receive
      (.methodHeader method.header) (lowering, state) = .ok false (lowering, state) := by
    rw [receive_methodHeader_kept _ _ _ stays, refused]
  rw [Method.streamTo, Action.bind_of_ok received]
  rfl

theorem streamTo_wanted {method : Method}
    (stays : method.header.isDeserializationHook || !unwanted method.signature) :
    method.streamTo (sink config services (consumer.dropping unwanted)) =
      method.streamTo (sink config services consumer) := by
  refine Method.streamTo_congr ?_ (fun _ => rfl) rfl
  funext ⟨lowering, state⟩
  cases hook : method.header.isDeserializationHook with
  | true => rw [receive_methodHeader_hook _ _ _ hook, receive_methodHeader_hook _ _ _ hook]
  | false =>
    have wanted : unwanted method.signature = false := by simpa [hook] using stays
    rw [receive_methodHeader_kept _ _ _ hook, receive_methodHeader_kept _ _ _ hook,
      consumer.receive_dropping_wanted unwanted wanted]

theorem forM_streamTo_dropping (methods : List Method) :
    methods.forM (·.streamTo (sink config services (consumer.dropping unwanted))) =
      (methods.filter fun method =>
        method.header.isDeserializationHook || !unwanted method.signature).forM
          (·.streamTo (sink config services consumer)) := by
  induction methods with
  | nil => rfl
  | cons method methods ih =>
    rw [Action.forM_cons, ih]
    cases stays : method.header.isDeserializationHook || !unwanted method.signature with
    | true =>
      rw [List.filter_cons_of_pos (by simpa using stays), Action.forM_cons,
        streamTo_wanted config services consumer unwanted stays]
    | false =>
      obtain ⟨ordinary, drops⟩ := Bool.or_eq_false_iff.mp stays
      rw [List.filter_cons_of_neg (by simp [stays]),
        streamTo_unwanted config services consumer unwanted ordinary (by simpa using drops),
        pure_bind]

end ClassLowering

end Methods

/-! ## Accessors -/

theorem demandAllFree_congr {first second signatures : List MethodSignature}
    (same : ∀ signature ∈ signatures, signature ∈ first ↔ signature ∈ second) :
    demandAllFree first signatures = demandAllFree second signatures := by
  induction signatures generalizing first second with
  | nil => rfl
  | cons signature signatures ih =>
    have later : demandAllFree (first ++ [signature]) signatures =
        demandAllFree (second ++ [signature]) signatures := by
      apply ih
      intro other member
      rw [List.mem_append, List.mem_append, same other (List.mem_cons_of_mem _ member)]
    rw [demandAllFree, demandAllFree, later, demandFree, demandFree]
    simp only [same signature List.mem_cons_self]

/-- Of distinct names those that are surely free need not be demanded. -/
theorem demandAllFree_filter {unwanted : MethodSignature → Bool}
    {taken signatures : List MethodSignature} (distinct : signatures.Nodup)
    (free : ∀ signature ∈ signatures, unwanted signature → signature ∉ taken) :
    demandAllFree taken (signatures.filter (!unwanted ·)) = demandAllFree taken signatures := by
  induction signatures generalizing taken with
  | nil => rfl
  | cons signature signatures ih =>
    obtain ⟨new, distinct⟩ := List.nodup_cons.mp distinct
    have freeLater := fun other member => free other (List.mem_cons_of_mem signature member)
    cases drops : unwanted signature with
    | true =>
      have notTaken : demandFree taken signature = .ok () :=
        if_neg (free signature List.mem_cons_self drops)
      have ignored : demandAllFree (taken ++ [signature]) signatures =
          demandAllFree taken signatures := by
        apply demandAllFree_congr
        intro other member
        have different : other ≠ signature := fun same => new (same ▸ member)
        simp [different]
      rw [List.filter_cons_of_neg (by simp [drops]), ih distinct freeLater, demandAllFree, notTaken]
      exact ignored.symm
    | false =>
      rw [List.filter_cons_of_pos (by simp [drops]), demandAllFree, demandAllFree]
      congr 1
      funext _
      apply ih distinct
      intro other member unwantedOther
      rw [List.mem_append, List.mem_singleton, not_or]
      refine ⟨freeLater other member unwantedOther, ?_⟩
      rintro rfl
      rw [drops] at unwantedOther
      cases unwantedOther

section ClassEnd

variable (config : Config) (services : Services S) (unwanted : MethodSignature → Bool)
variable (header : ClassHeader)

theorem forM_declare_dropping_agree (accessors : List Accessor) (methods : Array Method)
    (lowering : ClassLowering) (state : S) :
    let wanted := (accessors.map (·.declaration Accessor.hostAccess)).filter
      fun method => !unwanted method.signature
    Agree
      (Mirrored fun _ direct =>
        ({ lowering with stats := { lowering.stats with
            accessors := lowering.stats.accessors + accessors.length } },
          .inClass header (methods ++ wanted.toArray), direct))
      (fun streaming direct => streaming.2.2 = direct)
      (accessors.forM (ClassLowering.declare (ClassBuilder.sink.dropping unwanted))
        (lowering, .inClass header methods, state))
      ((Action.ofExcept (demandAllFree (methods.toList.map Method.signature)
        (wanted.map Method.signature)) : Action S Unit) state) := by
  induction accessors generalizing methods lowering state with
  | nil => exact .ok (by simp [Mirrored])
  | cons accessor accessors ih =>
    intro wanted
    let declaration := accessor.declaration Accessor.hostAccess
    rw [Action.forM_cons]
    cases drops : unwanted declaration.signature with
    | true =>
      -- The accessor is counted, and that is all.
      have counted : ClassLowering.declare (ClassBuilder.sink.dropping unwanted) accessor
          (lowering, .inClass header methods, state) =
          .ok () ({ lowering with stats := { lowering.stats with
            accessors := lowering.stats.accessors + 1 } }, .inClass header methods, state) := by
        rw [ClassLowering.declare,
          Method.streamTo_dropping_unwanted ClassBuilder.sink unwanted drops]
        rfl
      have same : wanted = (accessors.map (·.declaration Accessor.hostAccess)).filter
          fun method => !unwanted method.signature :=
        List.filter_cons_of_neg (by simp [declaration, drops])
      rw [Action.bind_of_ok counted, same]
      convert ih methods _ state using 2
      funext _ direct
      simp
      omega
    | false =>
      have same : wanted = declaration ::
          (accessors.map (·.declaration Accessor.hostAccess)).filter
            fun method => !unwanted method.signature :=
        List.filter_cons_of_pos (by simp [declaration, drops])
      have passed : ClassLowering.declare (ClassBuilder.sink.dropping unwanted) accessor =
          (ClassLowering.declare ClassBuilder.sink accessor :
            Action (ClassLowering × ClassBuilder × S) Unit) := by
        rw [ClassLowering.declare, ClassLowering.declare,
          Method.streamTo_dropping_wanted ClassBuilder.sink unwanted drops]
      rw [passed, same]
      simp only [List.map_cons, demandAllFree, Action.ofExcept_bind]
      apply (declare_agree header methods accessor lowering state).bind_mirrored
      intro _ _ direct
      have signatures : methods.toList.map Method.signature ++ [declaration.signature] =
          (methods.push declaration).toList.map Method.signature := by simp
      rw [signatures, ← bind_pure (Action.ofExcept _)]
      apply (ih _ _ direct).map_mirrored
      funext _ direct
      simp [declaration]
      omega

/-- At the class end the builder gets the wanted accessors, while the report counts all. If the
unwanted ones are surely free, the outcome is that without a wish, less the unwanted accessors. -/
theorem send_classEnd_dropping_agree (host : HostClass) (stats : Stats) (methods : Array Method)
    (pending : PendingAccessors) (state : S)
    (wanted : ∀ method ∈ methods.toList, unwanted method.signature = false)
    (distinct : (pending.entries.map (·.method.signature)).Nodup) :
    let accessors := pending.entries.map (·.declaration Accessor.hostAccess)
    Agree
      (fun _ streaming lowered direct =>
        streaming.2.1 = .finished (lowered.wanting unwanted) ∧ streaming.2.2 = direct)
      (fun streaming direct => streaming.2.2 = direct)
      ((ClassLowering.sink config services.onSnd (ClassBuilder.sink.dropping unwanted)).send
        .classEnd (⟨some host, pending, none, stats⟩, .inClass header methods, state))
      ((do
        Action.ofExcept
          (demandAllFree (methods.toList.map Method.signature) (accessors.map Method.signature))
        services.report (.classFinished host
          { stats with accessors := stats.accessors + pending.entries.length })
        return ⟨header, methods.toList ++ accessors⟩ : Action S ClassFile) state) := by
  intro accessors
  have signatures : accessors.map Method.signature =
      pending.entries.map (·.method.signature) := List.map_map
  -- The unwanted accessors are never declared, but their names would have been free.
  have demanded : demandAllFree (methods.toList.map Method.signature)
        ((accessors.filter fun method => !unwanted method.signature).map Method.signature) =
      demandAllFree (methods.toList.map Method.signature) (accessors.map Method.signature) := by
    have filtered : (accessors.map Method.signature).filter (!unwanted ·) =
        (accessors.filter fun method => !unwanted method.signature).map Method.signature :=
      List.filter_map
    rw [← filtered]
    apply demandAllFree_filter (signatures ▸ distinct)
    intro signature _ drops taken
    obtain ⟨method, member, rfl⟩ := List.mem_map.mp taken
    rw [wanted method member] at drops
    cases drops
  have left : methods.toList.filter (fun method => !unwanted method.signature) =
      methods.toList := by
    apply List.filter_eq_self.mpr
    intro method member
    simp [wanted method member]
  rw [ClassLowering.send_classEnd, ← demanded]
  apply (forM_declare_dropping_agree unwanted header pending.entries methods
    ⟨some host, .empty, none, stats⟩ state).bind_mirrored
  intro _ _ direct
  exact .ok ⟨by simp [accessors, ClassFile.wanting, left, ClassBuilder.inClass,
    ClassBuilder.finished], rfl⟩

end ClassEnd

/-! ## Whole classes -/

theorem Agree.with_right {values : α → S → β → T → Prop} {states : S → T → Prop}
    {left : EStateM.Result Error S α} {right : EStateM.Result Error T β}
    (agree : Agree values states left right) :
    Agree (fun value state other beside => values value state other beside ∧
      right = .ok other beside) states left right := by
  cases agree with
  | ok related => exact .ok ⟨related, rfl⟩
  | error related => exact .error related

theorem MethodsLowered.of_unrecorded {services : Services S} {metafactory : String}
    {host : HostClass} {taken : List MethodSignature} {methods lowered : List Method}
    {pending last : PendingAccessors} {state stateLast : S}
    (ran : lowerMethods services metafactory host taken methods (pending, state) =
      .ok lowered (last, stateLast)) :
    ∃ record,
      MethodsLowered services.declared metafactory host pending methods lowered record last := by
  have related : (([], state) : List Consultation × S).2 = state := rfl
  have agree : Agree _ _
      (lowerMethods services.recording metafactory host taken methods (pending, [], state)) _ :=
    services.recording_simulate.lowerMethods (fun _ _ _ _ _ _ _ => rfl) taken pending related
  rw [ran] at agree
  obtain ⟨_, ⟨_, record, _⟩, recorded, rfl, ⟨_⟩⟩ := agree.ok_of_right
  obtain ⟨asked, _, derived⟩ := MethodsLowered.of_lowerMethods recorded
  exact ⟨asked, derived⟩

theorem streamTo_dropping_agree (config : Config) (services : Services S)
    (unwanted : MethodSignature → Bool) (file : ClassFile) (state : S) :
    Agree
      (fun _ streaming lowered direct =>
        streaming.2.1 = .finished (lowered.wanting unwanted) ∧ streaming.2.2 = direct)
      (fun streaming direct => streaming.2.2 = direct)
      (file.streamTo
        (ClassLowering.sink config services.onSnd (ClassBuilder.sink.dropping unwanted))
        ({}, .initial, state))
      (lowerDirectly config services (file.without unwanted) state) := by
  let host := HostClass.ofHeader file.header
  have started : (ClassLowering.sink config services.onSnd
        (ClassBuilder.sink.dropping unwanted)).send
        (.classHeader file.header) ({}, .initial, state) =
      .ok () (⟨some host, .empty, none, {}⟩, .inClass file.header #[],
        config.startState services state) := by
    have passed := ClassLowering.send_of_receive (ClassLowering.receive_classHeader config
      services.onSnd (ClassBuilder.sink.dropping unwanted) file.header {}
      (ClassBuilder.initial, state))
    have accepted : (ClassBuilder.sink.dropping unwanted).send (.classHeader file.header)
        (.initial, config.startState services state) =
        .ok () (.inClass file.header #[], config.startState services state) :=
      ClassBuilder.send_of_accepts (.classHeader file.header) _
    rw [passed, config.startState_onSnd, accepted]
    rfl
  have methods := (forM_streamTo_agree config services host {} file.header #[]
    (file.without unwanted).methods .empty
    (config.startState services state)).withOwn_right.with_right
  unfold ClassFile.streamTo lowerDirectly
  rw [Action.bind_of_ok started, Action.bind_of_ok (Action.modify_apply _ _),
    ClassLowering.forM_streamTo_dropping config services.onSnd ClassBuilder.sink unwanted]
  refine (methods.mono_states ?_).bind ?_
  · rintro _ _ ⟨_, same⟩
    exact same
  · rintro _ _ ⟨lowered, pending⟩ direct ⟨rfl, ran⟩
    obtain ⟨_, derived⟩ := MethodsLowered.of_unrecorded (Action.withOwn_eq_ok.mp ran)
    have none : PendingAccessors.empty = .plannedFor host [] := rfl
    -- Only wanted methods were lowered, so no accessor that is not wanted meets its name there.
    have wanted : ∀ method ∈ (#[] ++ lowered.toArray).toList,
        unwanted method.signature = false := by
      intro method member
      have inside : method.signature ∈ (file.without unwanted).kept.map Method.signature := by
        rw [ClassFile.kept, ← derived.map_signature]
        exact List.mem_map_of_mem (by simpa using member)
      rw [ClassFile.kept_without] at inside
      obtain ⟨other, chosen, same⟩ := List.mem_map.mp inside
      rw [← same]
      simpa using (List.mem_filter.mp chosen).2
    have distinct : (pending.entries.map (·.method.signature)).Nodup := by
      rw [derived.pending_eq none]
      exact PendingAccessors.nodup_signature_plannedFor host _
    have ended := send_classEnd_dropping_agree config services unwanted file.header host
      (Stats.after {} config.metafactory (file.without unwanted).methods)
      (#[] ++ lowered.toArray) pending direct wanted distinct
    simpa [Stats.after, ClassFile.stats, ClassFile.lambdaSites, ClassFile.kept,
      ClassFile.without] using ended

theorem lowerClassDropping_apply (config : Config) (services : Services S)
    (unwanted : MethodSignature → Bool) (file : ClassFile) (state : S) :
    lowerClassDropping config services unwanted file state =
      (do
        let out ← lowerClass config services (file.without unwanted)
        return out.wanting unwanted : Action S ClassFile) state := by
  have streamed :=
    (streamTo_dropping_agree config services unwanted file state).withOwn.withOwn
  rw [Action.bind_apply, lowerClass_eq_lowerDirectly, ← Action.bind_apply]
  unfold lowerClassDropping
  apply Agree.eq
  refine (streamed.mono_states ?_).bind ?_
  · rintro _ _ ⟨_, _, same⟩
    exact same
  · rintro ⟨_, builder⟩ _ lowered direct ⟨ended, rfl⟩
    change builder = _ at ended
    rw [ended]
    exact .ok ⟨rfl, rfl⟩

/-- A class whose unwanted methods are dropped behind the lowering comes out, or fails, as if it had
been lowered without them, and the collaborators are asked the same. What is asked for is one lambda
for each call site of the wanted methods, and these sites alone take numbers. The unwanted ones of
the accessors are all that is then missing. Accessors are written as `Accessor.declaration`, with or
without the unwanted methods. -/
theorem lowerClassDropping_eq_without (config : Config) (services : Services S)
    (unwanted : MethodSignature → Bool) (file : ClassFile) (state : S) :
    let host := HostClass.ofHeader file.header
    let stay := file.kept.filter fun method => !unwanted method.signature
    let sites := stay.flatMap (·.lambdaSites config.metafactory)
    let accessors :=
      (PendingAccessors.plannedFor host (CallSite.needing host services.declared sites)).entries.map
        (·.declaration Accessor.hostAccess)
    lowerClassDropping config services unwanted file state =
      (do
        let out ← lowerClass config services (file.without unwanted)
        return out.wanting unwanted : Action S ClassFile) state ∧
    lowerClassDropping config services.recording unwanted file ([], state) =
      (do
        let out ← lowerClass config services.recording (file.without unwanted)
        return out.wanting unwanted : Action (List Consultation × S) ClassFile) ([], state) ∧
    ∀ out last, lowerClass config services (file.without unwanted) state = .ok out last →
      ∃ (served : List ServedSite) (methods : List Method),
        lowerClass config services.recording (file.without unwanted) ([], state) =
          .ok out (served.flatMap (·.consultations file.name), last) ∧
        served.map ServedSite.site = sites ∧
        methods.map Method.header = stay.map Method.header ∧
        out = ⟨file.header, methods ++ accessors⟩ ∧
        out.wanting unwanted = ⟨file.header,
          methods ++ accessors.filter fun method => !unwanted method.signature⟩ := by
  intro host stay sites accessors
  refine ⟨lowerClassDropping_apply config services unwanted file state,
    lowerClassDropping_apply config services.recording unwanted file ([], state), ?_⟩
  intro out last lowered
  have agree := lowerClass_recording_agree config services (file.without unwanted) [] state
  rw [lowered] at agree
  obtain ⟨_, ⟨record, _⟩, recorded, rfl, rfl⟩ := agree.ok_of_right
  have direct := recorded
  rw [lowerClass_eq_lowerDirectly] at direct
  obtain ⟨methods, pending, derived, rfl⟩ := MethodsLowered.of_lowerDirectly direct
  obtain ⟨served, _, serves, _⟩ := derived.serves
  have headers := derived.map_header
  have none : PendingAccessors.empty = .plannedFor host [] := rfl
  have planned := derived.pending_eq none
  have kept := file.kept_without unwanted
  unfold ClassFile.kept at kept
  rw [kept] at headers planned
  have wanted : methods.filter (fun method => !unwanted method.signature) = methods := by
    apply List.filter_eq_self.mpr
    intro method member
    have inside : method.header ∈ stay.map Method.header := headers ▸ List.mem_map_of_mem member
    obtain ⟨other, chosen, same⟩ := List.mem_map.mp inside
    have signature : other.signature = method.signature := congrArg MethodHeader.signature same
    rw [← signature]
    exact (List.mem_filter.mp chosen).2
  refine ⟨served, methods, ?_, ?_, headers, ?_, ?_⟩
  · rw [recorded, serves.record]
    rfl
  · rw [serves.sites, kept]
    rfl
  · rw [planned]
    rfl
  · rw [planned, ClassFile.wanting, List.filter_append, wanted]
    rfl

namespace PrivateBody

/-- Two methods with the same lambda. The first of them and the private body are not wanted. -/
def doubled : ClassFile where
  header := file.header
  methods := [⟨.plain .none "skipped" ⟨[], .void⟩, [.dynamic site]⟩, run, hook, body]

def undesired (signature : MethodSignature) : Bool :=
  signature.name == "skipped" || signature.name == "body"

def loweredUndoubled : ClassFile where
  header := file.header
  methods := [
    ⟨run.header, [.invoke .invokestatic "a/M$0" "make" site.descriptor false, .simple .voidReturn]⟩,
    ⟨.plain (.ofFlags [.isStatic, .isSynthetic]) "access$lambda$0" ⟨[], .void⟩,
      [.invoke .invokestatic "a/M" "body" ⟨[], .void⟩ false, .simple .voidReturn]⟩]

end PrivateBody

/-- The site of the first method takes no number, so the accessor for the second has number 0. -/
theorem lowerClassDropping_eq_without_doubled :
    lowerClassDropping {} PrivateBody.services PrivateBody.undesired PrivateBody.doubled () =
      .ok PrivateBody.loweredUndoubled () ∧
    ∃ served : List ServedSite,
      lowerClass {} PrivateBody.services.recording
        (PrivateBody.doubled.without PrivateBody.undesired) ([], ()) =
          .ok PrivateBody.loweredUndoubled (served.flatMap (·.consultations "a/M"), ()) ∧
      served.map ServedSite.site = [PrivateBody.site] := by
  have lowered : lowerClass {} PrivateBody.services
      (PrivateBody.doubled.without PrivateBody.undesired) () =
      .ok PrivateBody.loweredUndoubled () := by
    rw [lowerClass_eq_lowerDirectly]
    rfl
  have dropping := lowerClassDropping_eq_without {} PrivateBody.services PrivateBody.undesired
    PrivateBody.doubled ()
  obtain ⟨served, methods, recorded, sites, _⟩ := dropping.2.2 _ _ lowered
  refine ⟨?_, served, recorded, sites⟩
  rw [dropping.1, Action.bind_of_ok lowered]
  rfl

end LambdaLowering
