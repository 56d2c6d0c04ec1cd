import LambdaLowering.Batch
import LambdaLowering.Proofs.BuilderRuns
import LambdaLowering.Proofs.DirectLowering

/-! Lowering a class through a stream into a builder.

The stream, the lowering and the builder together do what the direct lowering does: they give the
same class, the same failures and the same effects on the collaborators. The two runs are followed
side by side, from one event to the next.
-/

set_option autoImplicit false

namespace LambdaLowering

variable {S : Type}

theorem Services.factoryFor_onSnd {T : Type} (services : Services S) (host : HostClass)
    (site : CallSite) (pending : PendingAccessors) (outer : T) (state : S) :
    services.onSnd.factoryFor host site (pending, (outer, state)) =
      Action.onState (fun reached => (reached.1, (outer, reached.2)))
        (services.factoryFor host site (pending, state)) := by
  have same : ∀ target ∈ site.implementation?,
      host.reaches services.declared target = host.reaches services.declared target :=
    fun _ _ => rfl
  have related : (outer, state) = (outer, state) := rfl
  -- The state in front is constant, so here agreement comes down to equality.
  have agree := (services.onSnd_simulate outer).factoryFor same pending related
  generalize services.onSnd.factoryFor host site (pending, (outer, state)) = left at agree ⊢
  generalize services.factoryFor host site (pending, state) = right at agree ⊢
  rcases agree with ⟨⟨rfl, ⟨rfl⟩⟩⟩ | ⟨⟨rfl⟩⟩
  · rfl
  · rfl

namespace ClassBuilder

theorem sink_receive_methodHeader (header : ClassHeader) (methods : Array Method)
    (method : Method) (state : S) :
    sink.receive (.methodHeader method.header) (.inClass header methods, state) =
      match demandFree (methods.toList.map Method.signature) method.signature with
      | .ok _ => .ok true (.inMethod header methods method.header #[], state)
      | .error error => .error error (.inClass header methods, state) := by
  unfold demandFree
  by_cases taken : method.signature ∈ methods.toList.map Method.signature
  · have declared : method.header.signature ∈ (inClass header methods).declared :=
      List.mem_reverse.mpr taken
    rw [if_pos taken]
    apply receive_of_error
    rw [step, ClassBuilder.receive_methodHeader, if_pos (by rfl), if_pos declared]
    rfl
  · rw [if_neg taken]
    exact receive_of_accepts (.methodHeader taken) state

theorem forM_instructions (header : ClassHeader) (methods : Array Method) (current : MethodHeader)
    (done : Array Instruction) (code : List Instruction) (state : S) :
    code.forM (fun one => sink.send (.instruction one))
        (.inMethod header methods current done, state) =
      .ok () (.inMethod header methods current (done ++ code.toArray), state) := by
  induction code generalizing done with
  | nil => simp
  | cons one code ih =>
    have pushed : (sink.send (.instruction one) : Action (ClassBuilder × S) Unit)
        (.inMethod header methods current done, state) =
        .ok () (.inMethod header methods current (done.push one), state) :=
      send_of_accepts (.instruction header methods current done one) state
    rw [Action.forM_cons, Action.bind_of_ok pushed, ih]
    simp

/-- A builder takes a whole method, or none of it if its name and descriptor are taken. -/
theorem streamTo_method (header : ClassHeader) (methods : Array Method) (method : Method)
    (state : S) :
    method.streamTo sink (.inClass header methods, state) =
      match demandFree (methods.toList.map Method.signature) method.signature with
      | .ok _ => .ok () (.inClass header (methods.push method), state)
      | .error error => .error error (.inClass header methods, state) := by
  unfold Method.streamTo
  rw [Action.bind_apply, sink_receive_methodHeader]
  cases demandFree (methods.toList.map Method.signature) method.signature with
  | error error => rfl
  | ok _ =>
    have ended : (sink.send .methodEnd : Action (ClassBuilder × S) Unit)
        (.inMethod header methods method.header (#[] ++ method.code.toArray), state) =
        .ok () (.inClass header
          (methods.push ⟨method.header, (#[] ++ method.code.toArray).toList⟩), state) :=
      send_of_accepts (.methodEnd _ _ _ _) state
    simp only [↓reduceIte]
    rw [Action.bind_of_ok (forM_instructions header methods method.header #[] method.code state),
      ended]
    simp

end ClassBuilder

/-- The failures of a streaming and of a direct lowering leave the collaborators alike. -/
def SameCollaborators {T U : Type} (streaming : T × U × S) (direct : PendingAccessors × S) : Prop :=
  streaming.2.2 = direct.2

section Streaming

variable (config : Config) (services : Services S) (host : HostClass) (stats : Stats)
variable (header : ClassHeader) (methods : Array Method)

theorem send_instruction_agree (current : MethodHeader) (done : Array Instruction)
    (instruction : Instruction) (replaced : Nat) (pending : PendingAccessors) (state : S) :
    Agree
      (Mirrored fun lowered direct =>
        (⟨some host, direct.1,
            some (replaced + (instruction.lambdaSite? config.metafactory).toList.length), stats⟩,
          .inMethod header methods current (done.push lowered), direct.2))
      SameCollaborators
      ((ClassLowering.sink config services.onSnd ClassBuilder.sink).send (.instruction instruction)
        (⟨some host, pending, some replaced, stats⟩, .inMethod header methods current done, state))
      (lowerInstruction services config.metafactory host instruction (pending, state)) := by
  have pushed : ∀ one (state : S),
      ClassBuilder.sink.send (.instruction one)
        (.inMethod header methods current done, state) =
      .ok () (.inMethod header methods current (done.push one), state) :=
    fun one state => ClassBuilder.send_of_accepts (.instruction _ _ _ _ one) state
  cases found : instruction.lambdaSite? config.metafactory with
  | none =>
    rw [ClassLowering.send_instruction_plain config _ _ rfl rfl found, pushed, lowerInstruction,
      found]
    exact .ok rfl
  | some site =>
    rw [ClassLowering.send_instruction_site config _ _ rfl rfl found,
      Services.factoryFor_onSnd, lowerInstruction, found]
    simp only [Action.bind_apply]
    cases services.factoryFor host site (pending, state) with
    | error error reached => exact .error rfl
    | ok factory reached =>
      simp only [Action.onState_ok, pushed]
      exact .ok rfl

theorem forM_instructions_agree (current : MethodHeader) (done : Array Instruction)
    (code : List Instruction) (replaced : Nat) (pending : PendingAccessors) (state : S) :
    Agree
      (Mirrored fun lowered direct =>
        (⟨some host, direct.1,
            some (replaced + (code.filterMap (·.lambdaSite? config.metafactory)).length), stats⟩,
          .inMethod header methods current (done ++ lowered.toArray), direct.2))
      SameCollaborators
      (code.forM (fun one =>
          (ClassLowering.sink config services.onSnd ClassBuilder.sink).send (.instruction one))
        (⟨some host, pending, some replaced, stats⟩, .inMethod header methods current done, state))
      (lowerCode services config.metafactory host code (pending, state)) := by
  induction code generalizing done replaced pending state with
  | nil => exact .ok (by simp [Mirrored])
  | cons one code ih =>
    -- The builder and the count take up the invariant where the first instruction leaves it.
    rw [Action.forM_cons, lowerCode, List.mapM_cons]
    apply (send_instruction_agree config services host stats header methods current done one
      replaced pending state).bind_mirrored
    intro _ lowered reached
    apply (ih _ _ reached.1 reached.2).map_mirrored
    funext rest direct
    cases found : one.lambdaSite? config.metafactory with
    | none => simp [found]
    | some site =>
      simp [found]
      omega

theorem open_agree {method : Method} (stays : method.header.isDeserializationHook = false)
    (pending : PendingAccessors) (state : S) :
    Agree
      (fun kept streaming _ direct => kept = true ∧ streaming =
        (⟨some host, direct.1, some 0, stats⟩, .inMethod header methods method.header #[],
          direct.2))
      SameCollaborators
      ((ClassLowering.sink config services.onSnd ClassBuilder.sink).receive
        (.methodHeader method.header)
        (⟨some host, pending, none, stats⟩, .inClass header methods, state))
      ((Action.ofExcept (demandFree (methods.toList.map Method.signature) method.signature) :
        Action (PendingAccessors × S) Unit) (pending, state)) := by
  rw [ClassLowering.receive_methodHeader_kept _ _ _ stays, ClassBuilder.sink_receive_methodHeader]
  cases demandFree (methods.toList.map Method.signature) method.signature with
  | error error => exact .error rfl
  | ok _ => exact .ok ⟨rfl, rfl⟩

theorem streamTo_agree {method : Method} (stays : method.header.isDeserializationHook = false)
    (pending : PendingAccessors) (state : S) :
    Agree
      (Mirrored fun code direct =>
        (⟨some host, direct.1, none,
            { stats with callSites :=
                stats.callSites + (method.lambdaSites config.metafactory).length }⟩,
          .inClass header (methods.push ⟨method.header, code⟩), direct.2))
      SameCollaborators
      (method.streamTo (ClassLowering.sink config services.onSnd ClassBuilder.sink)
        (⟨some host, pending, none, stats⟩, .inClass header methods, state))
      ((do
        Action.ofExcept (demandFree (methods.toList.map Method.signature) method.signature)
        lowerCode services config.metafactory host method.code :
          Action (PendingAccessors × S) (List Instruction)) (pending, state)) := by
  apply (open_agree config services host stats header methods stays pending state).bind
  rintro _ _ _ reached ⟨rfl, rfl⟩
  simp only [↓reduceIte]
  rw [← bind_pure (lowerCode services config.metafactory host method.code)]
  apply (forM_instructions_agree config services host stats header methods method.header #[]
    method.code 0 reached.1 reached.2).bind_mirrored
  intro _ code direct
  have ended : (ClassBuilder.sink.send .methodEnd : Action (ClassBuilder × S) Unit)
      (.inMethod header methods method.header (#[] ++ code.toArray), direct.2) =
      .ok () (.inClass header (methods.push ⟨method.header, (#[] ++ code.toArray).toList⟩),
        direct.2) :=
    ClassBuilder.send_of_accepts (.methodEnd _ _ _ _) direct.2
  rw [ClassLowering.send_methodEnd, ended]
  exact .ok (by simp [Mirrored, Method.lambdaSites])

def Stats.after (stats : Stats) (metafactory : String) (methods : List Method) : Stats where
  callSites := stats.callSites + ((methods.filter (!·.header.isDeserializationHook)).flatMap
    (·.lambdaSites metafactory)).length
  accessors := stats.accessors
  hooks := stats.hooks + (methods.filter (·.header.isDeserializationHook)).length

theorem forM_streamTo_agree (rest : List Method) (pending : PendingAccessors) (state : S) :
    Agree
      (Mirrored fun lowered direct =>
        (⟨some host, direct.1, none, stats.after config.metafactory rest⟩,
          .inClass header (methods ++ lowered.toArray), direct.2))
      SameCollaborators
      (rest.forM (·.streamTo (ClassLowering.sink config services.onSnd ClassBuilder.sink))
        (⟨some host, pending, none, stats⟩, .inClass header methods, state))
      (lowerMethods services config.metafactory host (methods.toList.map Method.signature) rest
        (pending, state)) := by
  induction rest generalizing stats methods pending state with
  | nil => exact .ok (by simp [Mirrored, Stats.after])
  | cons method rest ih =>
    rw [Action.forM_cons, lowerMethods]
    cases hook : method.header.isDeserializationHook with
    | true =>
      -- Neither side sees more of the hook than its header.
      rw [Action.bind_of_ok (ClassLowering.streamTo_hook config services.onSnd _ hook _ _),
        Action.bind_of_ok (services.keeps_hook hook pending state)]
      have counted :
          ({ stats with hooks := stats.hooks + 1 } : Stats).after config.metafactory rest =
            stats.after config.metafactory (method :: rest) := by
        simp [Stats.after, hook]
        omega
      rw [← counted]
      exact ih { stats with hooks := stats.hooks + 1 } methods pending _
    | false =>
      rw [Action.bind_of_ok (services.keeps_ordinary hook pending state)]
      simp only [↓reduceIte]
      rw [← bind_assoc]
      apply (streamTo_agree config services host stats header methods hook pending
        state).bind_mirrored
      intro _ code reached
      -- What is taken is what the builder holds, now with the method that was just closed.
      have signatures : methods.toList.map Method.signature ++ [method.signature] =
          (methods.push ⟨method.header, code⟩).toList.map Method.signature := by
        simp [Method.signature]
      rw [signatures]
      apply (ih _ _ reached.1 reached.2).map_mirrored
      funext lowered direct
      simp [Stats.after, hook]
      omega

/-! ## Class end -/

theorem streamTo_builder_agree (method : Method) (state : S) :
    Agree
      (Mirrored fun _ direct => (.inClass header (methods.push method), direct))
      (fun streaming direct => streaming.2 = direct)
      (method.streamTo ClassBuilder.sink (.inClass header methods, state))
      ((Action.ofExcept (demandFree (methods.toList.map Method.signature) method.signature) :
        Action S Unit) state) := by
  rw [ClassBuilder.streamTo_method]
  cases demandFree (methods.toList.map Method.signature) method.signature with
  | error error => exact .error rfl
  | ok _ => exact .ok rfl

theorem declare_agree (accessor : Accessor) (lowering : ClassLowering) (state : S) :
    Agree
      (Mirrored fun _ direct =>
        ({ lowering with stats := { lowering.stats with
            accessors := lowering.stats.accessors + 1 } },
          .inClass header (methods.push (accessor.declaration Accessor.hostAccess)), direct))
      (fun streaming direct => streaming.2.2 = direct)
      (ClassLowering.declare ClassBuilder.sink accessor (lowering, .inClass header methods, state))
      ((Action.ofExcept (demandFree (methods.toList.map Method.signature)
        (accessor.declaration Accessor.hostAccess).signature) : Action S Unit) state) := by
  have streamed := (streamTo_builder_agree header methods
    (accessor.declaration Accessor.hostAccess) state).onState_left (lowering, ·)
  rw [← Action.onSnd_apply] at streamed
  rw [← bind_pure (Action.ofExcept _)]
  refine (streamed.mono_states ?_).bind ?_
  · rintro _ _ ⟨_, rfl, same⟩
    exact same
  · rintro _ _ _ direct ⟨_, rfl, rfl⟩
    exact .ok rfl

theorem forM_declare_agree (accessors : List Accessor) (lowering : ClassLowering) (state : S) :
    Agree
      (Mirrored fun _ direct =>
        ({ lowering with stats := { lowering.stats with
            accessors := lowering.stats.accessors + accessors.length } },
          .inClass header
            (methods ++ (accessors.map (·.declaration Accessor.hostAccess)).toArray), direct))
      (fun streaming direct => streaming.2.2 = direct)
      (accessors.forM (ClassLowering.declare ClassBuilder.sink)
        (lowering, .inClass header methods, state))
      ((Action.ofExcept (demandAllFree (methods.toList.map Method.signature)
        ((accessors.map (·.declaration Accessor.hostAccess)).map Method.signature)) :
          Action S Unit) state) := by
  induction accessors generalizing methods lowering state with
  | nil => exact .ok (by simp [Mirrored])
  | cons accessor accessors ih =>
    simp only [List.map_cons, demandAllFree, Action.forM_cons, Action.ofExcept_bind]
    apply (declare_agree header methods accessor lowering state).bind_mirrored
    intro _ _ direct
    have signatures : methods.toList.map Method.signature ++
          [(accessor.declaration Accessor.hostAccess).signature] =
        (methods.push (accessor.declaration Accessor.hostAccess)).toList.map Method.signature := by
      simp
    rw [signatures, ← bind_pure (Action.ofExcept _)]
    apply (ih _ _ direct).map_mirrored
    funext _ direct
    simp
    omega

theorem send_classEnd_agree (pending : PendingAccessors) (state : S) :
    let accessors := pending.entries.map (·.declaration Accessor.hostAccess)
    Agree
      (fun _ streaming lowered direct =>
        streaming.2.1 = .finished lowered ∧ streaming.2.2 = direct)
      (fun streaming direct => streaming.2.2 = direct)
      ((ClassLowering.sink config services.onSnd ClassBuilder.sink).send .classEnd
        (⟨some host, pending, none, stats⟩, .inClass header methods, state))
      ((do
        Action.ofExcept
          (demandAllFree (methods.toList.map Method.signature) (accessors.map Method.signature))
        services.report (.classFinished host
          { stats with accessors := stats.accessors + pending.entries.length })
        return ⟨header, methods.toList ++ accessors⟩ : Action S ClassFile) state) := by
  intro accessors
  rw [ClassLowering.send_classEnd]
  apply (forM_declare_agree header methods pending.entries
    ⟨some host, .empty, none, stats⟩ state).bind_mirrored
  intro _ _ direct
  exact .ok ⟨by simp [accessors, ClassBuilder.inClass, ClassBuilder.finished], rfl⟩

end Streaming

/-! ## Whole classes -/

theorem streamTo_lowerDirectly_agree (config : Config) (services : Services S) (file : ClassFile)
    (state : S) :
    Agree
      (fun _ streaming lowered direct =>
        streaming.2.1 = .finished lowered ∧ streaming.2.2 = direct)
      (fun streaming direct => streaming.2.2 = direct)
      (file.streamTo (ClassLowering.sink config services.onSnd ClassBuilder.sink)
        ({}, .initial, state))
      (lowerDirectly config services file state) := by
  let host := HostClass.ofHeader file.header
  have started : (ClassLowering.sink config services.onSnd ClassBuilder.sink).send
        (.classHeader file.header) ({}, .initial, state) =
      .ok () (⟨some host, .empty, none, {}⟩, .inClass file.header #[],
        config.startState services state) := by
    have passed := ClassLowering.send_of_receive (ClassLowering.receive_classHeader config
      services.onSnd ClassBuilder.sink file.header {} (ClassBuilder.initial, state))
    rw [passed, config.startState_onSnd, ClassBuilder.send_of_accepts (.classHeader file.header)]
    rfl
  -- What is pending is a state of its own on the right, and a part of the lowering on the left.
  have methods := (forM_streamTo_agree config services host {} file.header #[] file.methods .empty
    (config.startState services state)).withOwn_right
  unfold ClassFile.streamTo lowerDirectly
  rw [Action.bind_of_ok started, Action.bind_of_ok (Action.modify_apply _ _)]
  refine (methods.mono_states ?_).bind ?_
  · rintro _ _ ⟨_, same⟩
    exact same
  · rintro _ _ ⟨lowered, pending⟩ direct rfl
    have ended := send_classEnd_agree config services host
      (Stats.after {} config.metafactory file.methods) file.header (#[] ++ lowered.toArray)
      pending direct
    simpa [Stats.after, ClassFile.stats, ClassFile.lambdaSites, ClassFile.kept] using ended

/-- A class that is lowered through a stream into a builder is lowered directly. -/
theorem lowerClass_eq_lowerDirectly (config : Config) (services : Services S) (file : ClassFile)
    (state : S) :
    lowerClass config services file state = lowerDirectly config services file state := by
  have streamed :=
    (streamTo_lowerDirectly_agree config services file state).withOwn.withOwn
  rw [← bind_pure (lowerDirectly config services file)]
  unfold lowerClass
  -- Both own states are gone at the end, and equal classes in equal states are left.
  apply Agree.eq
  refine (streamed.mono_states ?_).bind ?_
  · rintro _ _ ⟨_, _, same⟩
    exact same
  · rintro ⟨_, builder⟩ _ lowered direct ⟨ended, rfl⟩
    change builder = _ at ended
    rw [ended]
    exact .ok ⟨rfl, rfl⟩

end LambdaLowering
