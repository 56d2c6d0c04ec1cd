import LambdaLowering.Proofs.Forwarding
import LambdaLowering.Proofs.LoweredClass
import LambdaLowering.Proofs.Maintenance

/-! Accessors that generated classes call, and classes that declare them.

A class is generated long before the accessor that it calls is declared. Here events are offered in
any order, and offering goes on after failures. A promised accessor is declared as long as no class
header is refused and no class end fails in between: either forgets what is pending.
-/

set_option autoImplicit false

namespace LambdaLowering

variable {S : Type}

/-! ## Offers -/

namespace Sink

variable {sink : Sink S} {state : S} {event : Event}

theorem offer_snd (sink : Sink S) (state : S) (event : Event) :
    (sink.offer state event).2 = Action.stateAfter (sink.receive event state) := by
  unfold offer
  cases sink.receive event state <;> rfl

theorem receive_of_offer_eq {kept : Bool} {next : S}
    (accepted : sink.offer state event = (.ok kept, next)) :
    sink.receive event state = .ok kept next := by
  unfold offer at accepted
  cases answer : sink.receive event state with
  | ok kept after =>
    rw [answer] at accepted
    cases accepted
    rfl
  | error error after =>
    rw [answer] at accepted
    cases accepted

theorem receive_of_offer (accepted : (sink.offer state event).1.isOk) :
    ∃ kept, sink.receive event state = .ok kept (sink.offer state event).2 := by
  cases answer : (sink.offer state event).1 with
  | ok kept => exact ⟨kept, receive_of_offer_eq (Prod.ext answer rfl)⟩
  | error error =>
    rw [answer] at accepted
    cases accepted

end Sink

/-! ## What a builder keeps -/

namespace ClassBuilder

variable {builder next : ClassBuilder} {event : Event}

theorem Accepts.mem_methods (accepts : Accepts builder event next) {method : Method}
    (member : method ∈ builder.methods.toList) : method ∈ next.methods.toList := by
  cases accepts with
  | classHeader header => cases member
  | methodEnd header methods current code =>
    simp only [methods_inClass, Array.toList_push]
    exact List.mem_append_left _ member
  | _ => exact member

theorem Accepts.header_eq (accepts : Accepts builder event next) {header : ClassHeader}
    (begun : builder.header = some header) : next.header = some header := by
  cases accepts with
  | classHeader other => cases begun
  | _ => exact begun

theorem Accepts.phase_eq (accepts : Accepts builder event next)
    (finished : builder.phase = .finished) : next.phase = .finished := by
  cases accepts <;> cases finished

theorem Accepts.inside (accepts : Accepts builder event next) (inside : event.isInside) :
    (builder.header.isSome ∧ builder.phase ≠ .finished) ∧
      next.header = builder.header ∧ next.phase ≠ .finished := by
  cases accepts with
  | classHeader header => cases inside
  | classEnd header methods => cases inside
  | _ => exact ⟨⟨rfl, nofun⟩, rfl, nofun⟩

theorem phase_of_step_classEnd (accepted : builder.step .classEnd = .ok next) :
    next.phase = .finished := by
  by_cases turn : builder.phase = .inClass
  · rw [step, receive_classEnd, if_pos turn] at accepted
    cases accepted
    rfl
  · rw [step, receive_classEnd, if_neg turn] at accepted
    cases accepted

theorem Consistent.step_classHeader {header : ClassHeader} (consistent : builder.Consistent)
    (begun : builder.header.isSome) :
    ∃ error, builder.step (.classHeader header) = .error error := by
  cases consistent with
  | initial => cases begun
  | _ => exact ⟨_, rfl⟩

/-- What is true of consistent builders only, and stays true whatever they accept. -/
structure Invariant (inv : ClassBuilder → Prop) : Prop where
  consistent : ∀ {builder}, inv builder → builder.Consistent
  step : ∀ {builder event next}, Accepts builder event next → inv builder → inv next

theorem Consistent.invariant : Invariant Consistent :=
  ⟨id, fun accepts _ => accepts.consistent⟩

theorem invariant_header (header : ClassHeader) :
    Invariant fun builder => builder.Consistent ∧ builder.header = some header :=
  ⟨And.left, fun accepts held => ⟨accepts.consistent, accepts.header_eq held.2⟩⟩

theorem invariant_finished :
    Invariant fun builder => builder.Consistent ∧ builder.phase = .finished :=
  ⟨And.left, fun accepts held => ⟨accepts.consistent, accepts.phase_eq held.2⟩⟩

theorem receive_maintains (inv : ClassBuilder → Prop)
    (consistent : ∀ {builder}, inv builder → builder.Consistent)
    (steps : ∀ {builder next}, Accepts builder event next → inv builder → inv next) :
    (sink.receive event).Maintains fun state : ClassBuilder × S => inv state.1 := by
  intro ⟨builder, state⟩ held
  cases stepped : builder.step event with
  | error error =>
    rw [receive_of_error stepped]
    exact held
  | ok next =>
    have accepts := (consistent held).accepts stepped
    rw [receive_of_accepts accepts]
    exact steps accepts held

theorem Invariant.receive {inv : ClassBuilder → Prop} (invariant : Invariant inv) (event : Event) :
    (sink.receive event).Maintains fun state : ClassBuilder × S => inv state.1 :=
  receive_maintains inv invariant.consistent invariant.step

theorem Consistent.mem_methods_of_streamTo (consistent : builder.Consistent) {method : Method}
    {state : S} {after : ClassBuilder × S}
    (ran : method.streamTo sink (builder, state) = .ok () after) :
    method ∈ after.1.methods.toList := by
  cases consistent with
  | inClass header methods =>
    rw [streamTo_method] at ran
    split at ran
    · cases ran
      simp
    · cases ran
  | _ => cases ran

end ClassBuilder

/-! ## Promises -/

namespace ClassLowering

def intoBuilder (config : Config) (services : Services S) :
    Sink (ClassLowering × ClassBuilder × S) := sink config services.onSnd ClassBuilder.sink

/-- The event is no class header and no class end that fails before the class is finished. -/
def Harmless (config : Config) (services : Services S) (state : ClassLowering × ClassBuilder × S)
    (event : Event) : Prop :=
  event.isInside = false → state.2.1.phase ≠ .finished →
    ((intoBuilder config services).offer state event).1.isOk

/-- Until the class is finished, no class header is refused and no class end fails. -/
def Undisturbed (config : Config) (services : Services S) :
    ClassLowering × ClassBuilder × S → List Event → Prop
  | _, [] => True
  | state, event :: events =>
    Harmless config services state event ∧
      Undisturbed config services ((intoBuilder config services).offer state event).2 events

/-- The accessor is one of the methods that have been closed. -/
structure Declared (accessor : Accessor) (builder : ClassBuilder) : Prop where
  consistent : builder.Consistent
  member : accessor.declaration Accessor.hostAccess ∈ builder.methods.toList

/-- The accessor is pending in a class that has begun and not ended. -/
structure Pends (accessor : Accessor) (pending : PendingAccessors) (builder : ClassBuilder) :
    Prop where
  consistent : builder.Consistent
  begun : builder.header.isSome
  unfinished : builder.phase ≠ .finished
  member : accessor ∈ pending.entries

/-- The lowering takes the class that is being built for its host. -/
structure Settled (host : Option HostClass) (builder : ClassBuilder) : Prop where
  consistent : builder.Consistent
  host_eq : ∀ header, builder.header = some header → builder.phase ≠ .finished →
    host = some (.ofHeader header)

variable {config : Config} {services : Services S} {accessor : Accessor}

theorem Declared.invariant : ClassBuilder.Invariant (Declared accessor) where
  consistent := Declared.consistent
  step accepts declared := ⟨accepts.consistent, accepts.mem_methods declared.member⟩

theorem pends_steady (services : Services S) (accessor : Accessor) :
    Steady services.onSnd ClassBuilder.sink
      fun _ pending (state : ClassBuilder × S) => Pends accessor pending state.1 where
  acts _ pending := services.onSnd_maintains (Pends accessor pending)
  receives := by
    intro _ pending event inside
    apply ClassBuilder.receive_maintains (Pends accessor pending) Pends.consistent
    intro builder next accepts pends
    obtain ⟨_, same, unfinished⟩ := accepts.inside inside
    exact ⟨accepts.consistent, same ▸ pends.begun, unfinished, pends.member⟩
  grows _ _ _ _ pends :=
    ⟨pends.consistent, pends.begun, pends.unfinished, List.mem_append_left _ pends.member⟩

theorem settled_steady (services : Services S) :
    Steady services.onSnd ClassBuilder.sink
      fun host _ (state : ClassBuilder × S) => Settled host state.1 where
  acts host _ := services.onSnd_maintains (Settled host)
  receives := by
    intro host _ event inside
    apply ClassBuilder.receive_maintains (Settled host) Settled.consistent
    intro builder next accepts settled
    obtain ⟨⟨_, unfinished⟩, same, _⟩ := accepts.inside inside
    exact ⟨accepts.consistent, fun header begun _ =>
      settled.host_eq header (same ▸ begun) unfinished⟩
  grows _ _ _ _ settled := settled

/-! ## Class ends -/

section ClassEnd

variable {lowering : ClassLowering} {builder : ClassBuilder} {state : S} {kept : Bool}
variable {after : ClassLowering × ClassBuilder × S}

/-- Everything that is pending has been declared if the class end succeeds. -/
theorem declared_of_classEnd (consistent : builder.Consistent)
    (ran : (intoBuilder config services).receive .classEnd (lowering, builder, state) =
      .ok kept after) :
    ∀ accessor ∈ lowering.pending.entries, Declared accessor after.2.1 := by
  rw [intoBuilder, receive_classEnd] at ran
  obtain ⟨_, middle, declares, concluded⟩ := Action.bind_eq_ok.mp ran
  -- What one pass of the loop has declared stays declared in the later ones and at the class end.
  have keeps : ∀ accessor event, (ClassBuilder.sink.receive event).Maintains
      fun state : ClassBuilder × S => Declared accessor state.1 :=
    fun accessor event => Declared.invariant.receive event
  have stays : ∀ other, (declare ClassBuilder.sink other).Maintains
      fun state : ClassLowering × ClassBuilder × S => state.2.1.Consistent :=
    declare_maintains fun event _ => ClassBuilder.Consistent.invariant.receive event
  have others : ∀ accessor other, (declare ClassBuilder.sink other).Maintains
      fun state : ClassLowering × ClassBuilder × S => Declared accessor state.2.1 :=
    fun accessor => declare_maintains fun event _ => keeps accessor event
  have establishes : ∀ accessor (state last : ClassLowering × ClassBuilder × S),
      state.2.1.Consistent → declare ClassBuilder.sink accessor state = .ok () last →
        Declared accessor last.2.1 := by
    intro accessor state last consistent ran
    have reached := stays accessor state consistent
    rw [ran] at reached
    obtain ⟨_, ⟨_, _⟩, streamed, updated⟩ := Action.bind_eq_ok.mp ran
    cases updated
    exact ⟨reached, consistent.mem_methods_of_streamTo (Action.onSnd_eq_ok streamed).2⟩
  intro accessor pends
  have inMiddle := Action.Maintains.forM_establishes stays others establishes consistent declares
    accessor pends
  have ended := conclude_maintains (services.onSnd_maintains (Declared accessor))
    (keeps accessor .classEnd) middle inMiddle
  rwa [concluded] at ended

theorem phase_of_classEnd
    (ran : (intoBuilder config services).receive .classEnd (lowering, builder, state) =
      .ok kept after) :
    after.2.1.phase = .finished := by
  rw [intoBuilder, receive_classEnd] at ran
  obtain ⟨_, ⟨last, middle⟩, _, concluded⟩ := Action.bind_eq_ok.mp ran
  rw [conclude_apply] at concluded
  obtain ⟨reached, ended, rfl⟩ := Action.onState_eq_ok.mp concluded
  exact ClassBuilder.phase_of_step_classEnd (ClassBuilder.receive_eq_ok ended).1

end ClassEnd

/-! ## Runs -/

section Runs

variable {state : ClassLowering × ClassBuilder × S} {event : Event} {events : List Event}

theorem offer_keeps {inv : ClassBuilder → Prop} (invariant : ClassBuilder.Invariant inv)
    (held : inv state.2.1) : inv ((intoBuilder config services).offer state event).2.2.1 := by
  rw [Sink.offer_snd]
  exact receive_maintains (services.onSnd_maintains inv) (fun event => invariant.receive event)
    event state held

theorem offerAll_keeps {inv : ClassBuilder → Prop} (invariant : ClassBuilder.Invariant inv)
    (held : inv state.2.1) : inv ((intoBuilder config services).offerAll state events).2.1 := by
  induction events generalizing state with
  | nil => exact held
  | cons event events ih => exact ih (offer_keeps invariant held)

/-- A class header is always refused once the class has begun, so what is pending can be forgotten
only when something fails. -/
theorem Pends.offer (pends : Pends accessor state.1.pending state.2.1)
    (harmless : Harmless config services state event) :
    let next := ((intoBuilder config services).offer state event).2
    Declared accessor next.2.1 ∨ Pends accessor next.1.pending next.2.1 := by
  cases inside : event.isInside with
  | true =>
    right
    rw [Sink.offer_snd]
    exact (pends_steady services accessor).receive_maintains inside state pends
  | false =>
    obtain ⟨lowering, builder, inner⟩ := state
    obtain ⟨kept, received⟩ := Sink.receive_of_offer (harmless inside pends.unfinished)
    cases event with
    | classHeader header =>
      obtain ⟨error, refused⟩ := pends.consistent.step_classHeader pends.begun
      rw [intoBuilder, receive_classHeader, config.startState_onSnd,
        ClassBuilder.receive_of_error refused] at received
      cases received
    | classEnd => exact .inl (declared_of_classEnd pends.consistent received accessor pends.member)
    | _ => cases inside

theorem declared_or_pends_offerAll
    (secured : Declared accessor state.2.1 ∨ Pends accessor state.1.pending state.2.1)
    (undisturbed : Undisturbed config services state events) :
    let last := (intoBuilder config services).offerAll state events
    Declared accessor last.2.1 ∨ Pends accessor last.1.pending last.2.1 := by
  induction events generalizing state with
  | nil => exact secured
  | cons event events ih =>
    rcases secured with declared | pends
    · exact ih (.inl (offer_keeps Declared.invariant declared)) undisturbed.2
    · exact ih (pends.offer undisturbed.1) undisturbed.2

theorem Settled.offer (settled : Settled state.1.host state.2.1)
    (harmless : Harmless config services state event) :
    let next := ((intoBuilder config services).offer state event).2
    Settled next.1.host next.2.1 := by
  intro next
  have consistent : next.2.1.Consistent :=
    offer_keeps ClassBuilder.Consistent.invariant settled.consistent
  refine ⟨consistent, ?_⟩
  -- A finished builder accepts nothing more, so the host no longer matters.
  by_cases finished : state.2.1.phase = .finished
  · have stays : next.2.1.Consistent ∧ next.2.1.phase = .finished :=
      offer_keeps ClassBuilder.invariant_finished ⟨settled.consistent, finished⟩
    intro _ _ unfinished
    exact absurd stays.2 unfinished
  cases inside : event.isInside with
  | true =>
    have stays : Settled next.1.host next.2.1 := by
      simp only [next, Sink.offer_snd]
      exact (settled_steady services).receive_maintains inside state settled
    exact stays.host_eq
  | false =>
    obtain ⟨lowering, builder, inner⟩ := state
    obtain ⟨kept, received⟩ := Sink.receive_of_offer (harmless inside finished)
    cases event with
    | classHeader header =>
      rw [intoBuilder, receive_classHeader, config.startState_onSnd] at received
      have first : builder.Consistent := settled.consistent
      cases first with
      | initial =>
        rw [ClassBuilder.receive_of_accepts (.classHeader header)] at received
        have begun : next = ({ lowering with host := some (.ofHeader header), pending := .empty },
            .inClass header #[], config.startState services inner) :=
          (EStateM.Result.ok.inj received).2.symm
        rw [begun]
        intro _ same _
        cases same
        rfl
      | _ => cases received
    | classEnd =>
      intro _ _ unfinished
      exact absurd (phase_of_classEnd received) unfinished
    | _ => cases inside

theorem settled_initial : Settled none .initial := ⟨.initial, nofun⟩

theorem settled_offerAll (settled : Settled state.1.host state.2.1)
    (undisturbed : Undisturbed config services state events) :
    let last := (intoBuilder config services).offerAll state events
    Settled last.1.host last.2.1 := by
  induction events generalizing state with
  | nil => exact settled
  | cons event events ih => exact ih (settled.offer undisturbed.1) undisturbed.2

end Runs

/-! ## Accessors that are promised -/

theorem mem_entries_of_siteLowered {declared : Declarations} {host : HostClass} {site : CallSite}
    {pending last : PendingAccessors} {made factory : Factory} {asked : List Consultation}
    (served : SiteLowered declared host site pending made asked last) {request : LambdaRequest}
    (requested : .reify request (.ok factory) ∈ asked)
    (unreachable : host.reaches declared request.implementation = .ok false) :
    ∃ number, request.callee = (Accessor.numbered number host request.implementation).method ∧
      .numbered number host request.implementation ∈ last.entries := by
  cases served with
  | reached named reachable =>
    simp only [List.mem_cons, reduceCtorEq, Consultation.reify.injEq, false_or,
      List.not_mem_nil, or_false] at requested
    obtain ⟨rfl, -⟩ := requested
    cases reachable.symm.trans unreachable
  | planned named _ numbered =>
    simp only [List.mem_cons, reduceCtorEq, Consultation.reify.injEq, false_or,
      List.not_mem_nil, or_false] at requested
    obtain ⟨rfl, -⟩ := requested
    cases numbered
    exact ⟨pending.size, rfl, List.mem_append_right _ List.mem_cons_self⟩

theorem receive_instruction_eq_ok {one : Instruction} {lowering last : ClassLowering}
    {builder next : ClassBuilder} {record recordLast : List Consultation} {state stateLast : S}
    {kept : Bool}
    (ran : (intoBuilder config services.recording).receive (.instruction one)
      (lowering, builder, record, state) = .ok kept (last, next, recordLast, stateLast)) :
    ∃ host asked lowered, lowering.host = some host ∧ recordLast = record ++ asked ∧
      builder.step (.instruction lowered) = .ok next ∧
      ∀ request factory, .reify request (.ok factory) ∈ asked →
        host.reaches services.declared request.implementation = .ok false →
        ∃ number, request.callee = (Accessor.numbered number host request.implementation).method ∧
          .numbered number host request.implementation ∈ last.pending.entries := by
  have sent : (intoBuilder config services.recording).send (.instruction one)
      (lowering, builder, record, state) = .ok () (last, next, recordLast, stateLast) :=
    Action.bind_of_ok ran _
  obtain ⟨_ | host, pending, _ | replaced, stats⟩ := lowering
  · cases ran
  · cases ran
  · cases ran
  cases found : one.lambdaSite? config.metafactory with
  | none =>
    rw [intoBuilder, send_instruction_plain _ _ _ rfl rfl found] at sent
    obtain ⟨⟨_, _⟩, passed, same⟩ := Action.onState_eq_ok.mp sent
    cases same
    obtain ⟨stepped, same⟩ := ClassBuilder.send_eq_ok passed
    cases same
    exact ⟨host, [], one, rfl, (List.append_nil _).symm, stepped,
      fun _ _ none => absurd none List.not_mem_nil⟩
  | some site =>
    rw [intoBuilder, send_instruction_site _ _ _ rfl rfl found, Services.factoryFor_onSnd] at sent
    cases served : services.recording.factoryFor host site (pending, record, state) with
    | error error after =>
      rw [served] at sent
      cases sent
    | ok made reached =>
      obtain ⟨middle, written, reached⟩ := reached
      rw [served] at sent
      simp only [Action.onState_ok] at sent
      obtain ⟨⟨_, _⟩, passed, same⟩ := Action.onState_eq_ok.mp sent
      cases same
      obtain ⟨stepped, same⟩ := ClassBuilder.send_eq_ok passed
      cases same
      obtain ⟨asked, grown, derived⟩ := SiteLowered.of_factoryFor served
      exact ⟨host, asked, made.call, rfl, grown, stepped,
        fun _ _ requested => mem_entries_of_siteLowered derived requested⟩

end ClassLowering

/-- Events are offered in any order. An instruction is accepted, and a lambda class is generated for
it that calls an accessor. If the class is finished at last, it declares that accessor as a static
method that passes its arguments on to the implementation, unless in between a class header was
refused or a class end failed. If nothing of that kind came before either, it is the class that owns
the accessor. Accessors are written as `Accessor.declaration`, whoever the collaborators are. -/
theorem declared_of_promised {config : Config} {services : Services S} {state : S}
    {before after : List Event} {one : Instruction}
    {reached promised : ClassLowering × ClassBuilder × List Consultation × S} {kept : Bool}
    {host : HostClass} {asked : List Consultation} {request : LambdaRequest} {factory : Factory}
    {file : ClassFile}
    (reaches : (ClassLowering.intoBuilder config services.recording).offerAll
      ({}, .initial, [], state) before = reached)
    (accepted : (ClassLowering.intoBuilder config services.recording).offer reached
      (.instruction one) = (.ok kept, promised))
    (asks : promised.2.2.1 = reached.2.2.1 ++ asked)
    (requested : .reify request (.ok factory) ∈ asked)
    (inClass : reached.1.host = some host)
    (unreachable : host.reaches services.declared request.implementation = .ok false)
    (undisturbed : ClassLowering.Undisturbed config services.recording promised after)
    (finished : ((ClassLowering.intoBuilder config services.recording).offerAll
      promised after).2.1.finish = .ok file) :
    let accessor : Accessor := ⟨request.callee, request.implementation⟩
    accessor.declaration Accessor.hostAccess ∈ file.methods ∧
      (accessor.declaration Accessor.hostAccess).ForwardsTo host request.implementation ∧
      request.callee.kind = .static ∧ request.callee.owner = host.name ∧
      (ClassLowering.Undisturbed config services.recording ({}, .initial, [], state) before →
        host = .ofHeader file.header) := by
  intro accessor
  obtain ⟨lowering, builder, record, inner⟩ := reached
  obtain ⟨last, next, recordLast, innerLast⟩ := promised
  obtain ⟨_, _, lowered, same, grown, stepped, promises⟩ :=
    ClassLowering.receive_instruction_eq_ok (Sink.receive_of_offer_eq accepted)
  obtain rfl := Option.some.inj (inClass.symm.trans same)
  obtain rfl := List.append_cancel_left (asks.symm.trans grown)
  obtain ⟨number, callee, pends⟩ := promises request factory requested unreachable
  have consistent : builder.Consistent := by
    have stays : ((ClassLowering.intoBuilder config services.recording).offerAll
        ({}, .initial, [], state) before).2.1.Consistent :=
      ClassLowering.offerAll_keeps ClassBuilder.Consistent.invariant .initial
    rwa [reaches] at stays
  have accepts := consistent.accepts stepped
  obtain ⟨⟨begun, unfinished⟩, unchanged, unended⟩ := accepts.inside rfl
  obtain ⟨header, begun⟩ := Option.isSome_iff_exists.mp begun
  have begunNext : next.header = some header := unchanged.trans begun
  -- The class has begun when the instruction comes, and its header stays what it is.
  have stays : ((ClassLowering.intoBuilder config services.recording).offerAll
        (last, next, recordLast, innerLast) after).2.1.Consistent ∧
      ((ClassLowering.intoBuilder config services.recording).offerAll
        (last, next, recordLast, innerLast) after).2.1.header = some header :=
    ClassLowering.offerAll_keeps (ClassBuilder.invariant_header header)
      ⟨accepts.consistent, begunNext⟩
  have ended := (ClassBuilder.finish_eq_ok_iff stays.1).mp finished
  have numbered : accessor = .numbered number host request.implementation := by
    simp only [accessor, callee]
    rfl
  refine ⟨?_, Accessor.numbered_forwardsTo numbered, by rw [callee]; rfl, by rw [callee]; rfl, ?_⟩
  -- Nothing is pending in a finished class, so the accessor must have been declared.
  · have secured := ClassLowering.declared_or_pends_offerAll
      (.inr ⟨accepts.consistent, by rw [begunNext]; rfl, unended, pends⟩) undisturbed
    simp only [ended] at secured
    rw [numbered]
    rcases secured with declared | pends
    · exact declared.member
    · exact absurd rfl pends.unfinished
  · intro calm
    have settled := ClassLowering.settled_offerAll ClassLowering.settled_initial calm
    rw [reaches] at settled
    have same := stays.2
    rw [ended] at same
    obtain rfl := Option.some.inj same
    exact Option.some.inj (inClass.symm.trans (settled.host_eq file.header begun unfinished))

namespace PrivateBody

def opening : List Event := [.classHeader file.header, .methodHeader run.header]

def request : LambdaRequest :=
  site.request ⟨"a/M"⟩ ⟨.static, "a/M", "body", ⟨[], .void⟩⟩
    ⟨.static, "a/M", "access$lambda$0", ⟨[], .void⟩⟩

def factory : Factory := ⟨"a/M$0", "make", site.descriptor⟩

def runLowered : Method := ⟨run.header, [factory.call]⟩

def accessor : Method :=
  ⟨.plain (.ofFlags [.isStatic, .isSynthetic]) "access$lambda$0" ⟨[], .void⟩,
    [.invoke .invokestatic "a/M" "body" ⟨[], .void⟩ false, .simple .voidReturn]⟩

end PrivateBody

/-- The second method end is refused, and does no harm. -/
theorem declared_of_promised_privateBody :
    let engine := ClassLowering.intoBuilder {} PrivateBody.services.recording
    let reached := engine.offerAll ({}, .initial, [], ()) PrivateBody.opening
    let promised := (engine.offer reached (.instruction (.dynamic PrivateBody.site))).2
    let file : ClassFile :=
      ⟨PrivateBody.file.header, [PrivateBody.runLowered, PrivateBody.accessor]⟩
    (engine.offerAll promised [.methodEnd, .methodEnd, .classEnd]).2.1.finish = .ok file ∧
      PrivateBody.accessor ∈ file.methods ∧
      PrivateBody.accessor.ForwardsTo (.ofHeader PrivateBody.file.header)
        PrivateBody.request.implementation := by
  intro engine reached promised file
  have accepted : engine.offer reached (.instruction (.dynamic PrivateBody.site)) =
      (.ok true, promised) := by
    with_unfolding_all rfl
  let asked : List Consultation :=
    [.load "a/M" (.ok ⟨"a/M"⟩), .reify PrivateBody.request (.ok PrivateBody.factory)]
  have asks : promised.2.2.1 = reached.2.2.1 ++ asked := by
    with_unfolding_all rfl
  have inClass : reached.1.host = some (.ofHeader PrivateBody.file.header) := by
    with_unfolding_all rfl
  have unreachable : (HostClass.ofHeader PrivateBody.file.header).reaches
      PrivateBody.services.declared PrivateBody.request.implementation = .ok false := by
    rfl
  have undisturbed : ClassLowering.Undisturbed {} PrivateBody.services.recording promised
      [.methodEnd, .methodEnd, .classEnd] := by
    refine ⟨nofun, nofun, fun _ _ => ?_, trivial⟩
    with_unfolding_all rfl
  have finished : (engine.offerAll promised [.methodEnd, .methodEnd, .classEnd]).2.1.finish =
      .ok file := by
    with_unfolding_all rfl
  have requested : .reify PrivateBody.request (.ok PrivateBody.factory) ∈ asked :=
    List.mem_cons_of_mem _ List.mem_cons_self
  have declared := declared_of_promised rfl accepted asks requested inClass unreachable
    undisturbed finished
  exact ⟨finished, declared.1, declared.2.1⟩

/-- A class header that is refused, or a class end inside a method, makes the lowering forget the
accessor that it has promised, and yet the class is finished. -/
theorem promised_not_declared :
    let engine := ClassLowering.intoBuilder {} PrivateBody.services.recording
    let start : ClassLowering × ClassBuilder × List Consultation × Unit := ({}, .initial, [], ())
    let promising := PrivateBody.opening ++ [.instruction (.dynamic PrivateBody.site)]
    let refused := promising ++ [.classHeader PrivateBody.file.header, .methodEnd, .classEnd]
    let failed := promising ++ [.classEnd, .methodEnd, .classEnd]
    let file : ClassFile := ⟨PrivateBody.file.header, [PrivateBody.runLowered]⟩
    generatedIn (engine.offerAll start promising).2.2.1 =
        [(PrivateBody.request, PrivateBody.factory)] ∧
      engine.accepted start refused = promising ++ [.methodEnd, .classEnd] ∧
      engine.accepted start failed = promising ++ [.methodEnd, .classEnd] ∧
      (engine.offerAll start refused).2.1.finish = .ok file ∧
      (engine.offerAll start failed).2.1.finish = .ok file ∧
      ∀ method ∈ file.methods, method.signature ≠ PrivateBody.request.callee.signature := by
  refine ⟨?_, ?_, ?_, ?_, ?_, by decide⟩
  all_goals with_unfolding_all rfl

end LambdaLowering
