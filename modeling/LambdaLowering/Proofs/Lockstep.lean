import LambdaLowering.Proofs.Promises

/-! A lowering that meets no lambda call site.

Such a lowering drops hooks and changes nothing else. In front of a builder it stays in step with a
bare builder that is never offered a hook, whatever the order of the events: both accept an event or
both refuse it, and both hold the same class.
-/

set_option autoImplicit false

namespace LambdaLowering

variable {S : Type}

def Event.opensHook : Event → Bool
  | .methodHeader header => header.isDeserializationHook
  | _ => false

def Event.bringsSite (metafactory : String) : Event → Bool
  | .instruction (.dynamic site) => site.bootstrap.owner == metafactory
  | _ => false

/-- Both answers are the same, or both are refusals of a malformed stream. -/
inductive SameAnswer : Except Error Bool → Except Error Bool → Prop
  | accepted {kept : Bool} : SameAnswer (.ok kept) (.ok kept)
  | refused {cause other : Malformation} :
    SameAnswer (.error (.malformed cause)) (.error (.malformed other))

namespace ClassLowering

/-- The invariant of the lowering beside the builder behind it. The lowering has a host once the
builder has a class, a method is open in both or in neither, and nothing is pending. -/
structure InStep (lowering : ClassLowering) (builder : ClassBuilder) : Prop where
  consistent : builder.Consistent
  begun : builder.phase ≠ .initial → lowering.host.isSome
  inMethod : lowering.current.isSome ↔ builder.phase = .inMethod
  nonePending : lowering.pending = .empty

theorem InStep.initial : InStep {} .initial where
  consistent := .initial
  begun := by simp
  inMethod := by simp
  nonePending := rfl

/-- An event is handled alike by the lowering in front of a builder and by the builder alone, and
they stay in step. -/
def Follows (config : Config) (services : Services S) (lowering : ClassLowering)
    (builder : ClassBuilder) (state : S) (event : Event) : Prop :=
  let lowered := (intoBuilder config services).offer (lowering, builder, state) event
  let bare := ClassBuilder.sink.offer (builder, ()) event
  SameAnswer lowered.1 bare.1 ∧ lowered.2.2.1 = bare.2.1 ∧ InStep lowered.2.1 bare.2.1

section Steps

variable {config : Config} {services : Services S} {lowering next : ClassLowering}
variable {builder : ClassBuilder} {state inner : S} {event : Event}

theorem follows_of_passed (consistent : builder.Consistent)
    (law : (intoBuilder config services).receive event (lowering, builder, state) =
      Action.onState (next, ·) (ClassBuilder.sink.receive event (builder, inner)))
    (accepts : ∀ reached, builder.Accepts event reached → InStep next reached)
    (refuses : ∀ error, builder.step event = .error error → InStep next builder) :
    Follows config services lowering builder state event := by
  unfold Follows Sink.offer
  cases stepped : builder.step event with
  | ok reached =>
    have accepted := consistent.accepts stepped
    rw [law, ClassBuilder.receive_of_accepts accepted, ClassBuilder.receive_of_accepts accepted]
    exact ⟨.accepted, rfl, accepts reached accepted⟩
  | error error =>
    obtain ⟨cause, rfl⟩ := ClassBuilder.step_eq_error stepped
    rw [law, ClassBuilder.receive_of_error stepped, ClassBuilder.receive_of_error stepped]
    exact ⟨.refused, rfl, refuses _ stepped⟩

theorem InStep.follows_classHeader (inStep : InStep lowering builder) (header : ClassHeader) :
    Follows config services lowering builder state (.classHeader header) := by
  have law := receive_classHeader config services.onSnd ClassBuilder.sink header lowering
    (builder, state)
  rw [config.startState_onSnd] at law
  -- The lowering takes the new host even if the builder refuses the header.
  apply follows_of_passed inStep.consistent law
  · intro reached accepts
    cases accepts with
    | classHeader header =>
      exact ⟨.inClass header #[], fun _ => rfl, inStep.inMethod.trans (by simp), rfl⟩
  · intro error refused
    exact ⟨inStep.consistent, fun _ => rfl, inStep.inMethod, rfl⟩

theorem InStep.follows_methodHeader (inStep : InStep lowering builder) {header : MethodHeader}
    (ordinary : header.isDeserializationHook = false) :
    Follows config services lowering builder state (.methodHeader header) := by
  unfold Follows Sink.offer
  rw [intoBuilder, receive_methodHeader_kept _ _ _ ordinary]
  cases stepped : builder.step (.methodHeader header) with
  | ok reached =>
    have accepts := inStep.consistent.accepts stepped
    rw [ClassBuilder.receive_of_accepts accepts, ClassBuilder.receive_of_accepts accepts]
    refine ⟨.accepted, rfl, ?_⟩
    cases accepts with
    | methodHeader free =>
      exact ⟨.inMethod _ _ _ _, fun _ => inStep.begun (by simp), by simp, inStep.nonePending⟩
  | error error =>
    obtain ⟨cause, rfl⟩ := ClassBuilder.step_eq_error stepped
    rw [ClassBuilder.receive_of_error stepped, ClassBuilder.receive_of_error stepped]
    exact ⟨.refused, rfl, inStep⟩

theorem InStep.follows_instruction (inStep : InStep lowering builder) {one : Instruction}
    (plain : one.lambdaSite? config.metafactory = none) :
    Follows config services lowering builder state (.instruction one) := by
  by_cases opened : builder.phase = .inMethod
  · obtain ⟨host, inClass⟩ := Option.isSome_iff_exists.mp (inStep.begun (by simp [opened]))
    obtain ⟨replaced, inMethod⟩ := Option.isSome_iff_exists.mp (inStep.inMethod.mpr opened)
    obtain ⟨reached, accepts⟩ : ∃ reached, builder.Accepts (.instruction one) reached := by
      have first := inStep.consistent
      cases first with
      | inMethod header methods current code =>
        exact ⟨_, .instruction header methods current code one⟩
      | _ => cases opened
    have law : (intoBuilder config services).receive (.instruction one)
        (lowering, builder, state) =
        Action.onState (lowering, ·) (ClassBuilder.sink.receive (.instruction one)
          (builder, state)) := by
      rw [intoBuilder, receive_instruction, Action.bind_apply,
        send_instruction_plain config _ _ inClass inMethod plain,
        ClassBuilder.send_of_accepts accepts, ClassBuilder.receive_of_accepts accepts]
      rfl
    apply follows_of_passed inStep.consistent law
    · intro reached accepts
      cases accepts with
      | instruction header methods current code one =>
        exact ⟨.inMethod _ _ _ _, fun _ => inStep.begun (by simp), inStep.inMethod,
          inStep.nonePending⟩
    · intro error refused
      exact inStep
  · -- The lowering refuses the instruction itself, and in other words than the builder.
    have outside : lowering.current = none := by simpa [opened] using inStep.inMethod
    have refused : builder.step (.instruction one) =
        .error (.malformed (.outOfOrder (.instruction one) builder.phase)) := by
      rw [ClassBuilder.step, ClassBuilder.receive_instruction, if_neg opened]
    unfold Follows Sink.offer
    rw [intoBuilder, receive_instruction_outside config _ _ (.inr outside),
      ClassBuilder.receive_of_error refused]
    exact ⟨.refused, rfl, inStep⟩

theorem InStep.follows_methodEnd (inStep : InStep lowering builder) :
    Follows config services lowering builder state .methodEnd := by
  apply follows_of_passed inStep.consistent (receive_methodEnd config services.onSnd
    ClassBuilder.sink lowering (builder, state))
  · intro reached accepts
    cases accepts with
    | methodEnd header methods current code =>
      exact ⟨.inClass _ _, fun _ => inStep.begun (by simp), by simp, inStep.nonePending⟩
  · intro error refused
    have closed : builder.phase ≠ .inMethod := by
      intro opened
      rw [ClassBuilder.step, ClassBuilder.receive_methodEnd, if_pos opened] at refused
      cases refused
    exact ⟨inStep.consistent, inStep.begun, by simp [closed], inStep.nonePending⟩

theorem InStep.follows_classEnd (inStep : InStep lowering builder) :
    Follows config services lowering builder state .classEnd := by
  obtain ⟨inner, law⟩ : ∃ inner,
      (intoBuilder config services).receive .classEnd (lowering, builder, state) =
        Action.onState (lowering, ·) (ClassBuilder.sink.receive .classEnd (builder, inner)) := by
    -- Nothing is pending, so the report is all that comes before the end.
    obtain ⟨_ | host, pending, current, stats⟩ := lowering
    all_goals
      obtain rfl : pending = .empty := inStep.nonePending
      rw [intoBuilder, receive_classEnd, PendingAccessors.empty, Action.forM_nil, pure_bind,
        conclude_apply]
      exact ⟨_, rfl⟩
  apply follows_of_passed inStep.consistent law
  · intro reached accepts
    cases accepts with
    | classEnd header methods =>
      exact ⟨.finished _, fun _ => inStep.begun (by simp),
        inStep.inMethod.trans (by simp), inStep.nonePending⟩
  · intro error refused
    exact inStep

/-- The step lemma. -/
theorem InStep.follows (inStep : InStep lowering builder)
    (plain : event.bringsSite config.metafactory = false) (ordinary : event.opensHook = false) :
    Follows config services lowering builder state event := by
  cases event with
  | classHeader header => exact inStep.follows_classHeader header
  | methodHeader header => exact inStep.follows_methodHeader ordinary
  | instruction one =>
    apply inStep.follows_instruction
    rw [Instruction.lambdaSite?_eq_none_iff]
    rintro site rfl
    simpa [Event.bringsSite] using plain
  | methodEnd => exact inStep.follows_methodEnd
  | classEnd => exact inStep.follows_classEnd

theorem InStep.offer_hook (inStep : InStep lowering builder) (hook : event.opensHook) :
    ∃ next after, (intoBuilder config services).offer (lowering, builder, state) event =
      (.ok false, next, builder, after) ∧ InStep next builder := by
  cases event with
  | methodHeader header =>
    unfold Sink.offer
    rw [intoBuilder, receive_methodHeader_hook _ _ _ hook]
    exact ⟨_, _, rfl, inStep.consistent, inStep.begun, inStep.inMethod, inStep.nonePending⟩
  | _ => cases hook

/-- The run lemma. -/
theorem InStep.offerAll {bare : ClassBuilder × Unit} (inStep : InStep lowering bare.1)
    {events : List Event} (plain : ∀ event ∈ events, event.bringsSite config.metafactory = false) :
    let reached := (intoBuilder config services).offerAll (lowering, bare.1, state) events
    let beside := ClassBuilder.sink.offerAll bare (events.filter (!·.opensHook))
    reached.2.1 = beside.1 ∧ InStep reached.1 beside.1 := by
  induction events generalizing lowering bare state with
  | nil => exact ⟨rfl, inStep⟩
  | cons event events ih =>
    have later := fun event member => plain event (List.mem_cons_of_mem _ member)
    cases hook : event.opensHook with
    | true =>
      have dropped : ∃ next after, (intoBuilder config services).offer (lowering, bare.1, state)
          event = (.ok false, next, bare.1, after) ∧ InStep next bare.1 := inStep.offer_hook hook
      obtain ⟨next, after, dropped, inStep⟩ := dropped
      rw [Sink.offerAll, List.foldl_cons, dropped, List.filter_cons_of_neg (by simp [hook])]
      exact ih inStep later
    | false =>
      have follows : Follows config services lowering bare.1 state event :=
        inStep.follows (plain event List.mem_cons_self) hook
      obtain ⟨-, same, inStep⟩ := follows
      rw [List.filter_cons_of_pos (by simp [hook]), Sink.offerAll, Sink.offerAll,
        List.foldl_cons, List.foldl_cons]
      -- The bare builder is where the one behind the lowering is, so the rest starts alike.
      generalize (intoBuilder config services).offer _ event = lowered at same inStep ⊢
      obtain ⟨_, _, _, _⟩ := lowered
      subst same
      exact ih inStep later

end Steps

end ClassLowering

/-- Events are offered in any order, and none of them brings a lambda call site. At every moment the
builder behind the lowering holds what a bare builder holds that was offered all but the hooks, and
it finishes alike; the lowering has a method open just if the builder has. The next event is
answered alike by both, or refused by both as malformed, and a hook is dropped without touching the
builder. Without call sites no accessor is ever written. -/
theorem offerAll_lockstep {config : Config} (services : Services S) (state : S)
    {events : List Event} (plain : ∀ site, .instruction (.dynamic site) ∈ events →
      site.bootstrap.owner ≠ config.metafactory) :
    let lowering := ClassLowering.intoBuilder config services
    ∀ before, before <+: events →
      let reached := lowering.offerAll ({}, .initial, state) before
      let bare := ClassBuilder.sink.offerAll (.initial, ()) (before.filter (!·.opensHook))
      reached.2.1 = bare.1 ∧
      reached.2.1.finish = bare.1.finish ∧
      (reached.1.current.isSome ↔ bare.1.phase = .inMethod) ∧
      ∀ event, before ++ [event] <+: events →
        let offered := lowering.offer reached event
        if event.opensHook then offered.1 = .ok false ∧ offered.2.2.1 = reached.2.1
        else SameAnswer offered.1 (ClassBuilder.sink.offer bare event).1 := by
  intro lowering before started reached bare
  have sites : ∀ event ∈ events, event.bringsSite config.metafactory = false := by
    intro event member
    cases event with
    | instruction one =>
      cases one with
      | dynamic site => simpa [Event.bringsSite] using plain site member
      | _ => rfl
    | _ => rfl
  have initial : ClassLowering.InStep {} (ClassBuilder.initial, ()).1 := .initial
  obtain ⟨same, inStep⟩ : reached.2.1 = bare.1 ∧ ClassLowering.InStep reached.1 bare.1 :=
    initial.offerAll fun event member => sites event (started.mem member)
  refine ⟨same, by rw [same], inStep.inMethod, ?_⟩
  intro event following offered
  have here : event ∈ events := following.mem (List.mem_append_right _ List.mem_cons_self)
  have position : reached = (reached.1, bare.1, reached.2.2) := by rw [← same]
  split
  next hook =>
    obtain ⟨next, after, dropped, -⟩ :
        ∃ next after, lowering.offer (reached.1, bare.1, reached.2.2) event =
          (.ok false, next, bare.1, after) ∧ ClassLowering.InStep next bare.1 :=
      inStep.offer_hook hook
    rw [← position] at dropped
    simp [offered, dropped, same]
  next ordinary =>
    have follows : ClassLowering.Follows config services reached.1 bare.1 reached.2.2 event :=
      inStep.follows (sites event here) (by simpa using ordinary)
    unfold ClassLowering.Follows at follows
    rw [← position] at follows
    exact follows.1

namespace PrivateBody

/-- A class whose events come in disorder: there is a hook before the class and one inside a method,
and a class end, an instruction and a method too many. -/
def disorder : List Event :=
  [.methodHeader hook.header, .classHeader file.header, .methodHeader body.header,
    .methodHeader hook.header, .instruction (.simple .voidReturn), .classEnd, .methodEnd,
    .instruction (.simple .voidReturn), .methodHeader body.header, .classEnd]

end PrivateBody

/-- The class is built of what is in its place. -/
theorem offerAll_lockstep_disorder :
    (∀ site, .instruction (.dynamic site) ∈ PrivateBody.disorder →
      site.bootstrap.owner ≠ ({} : Config).metafactory) ∧
    ((ClassLowering.intoBuilder {} PrivateBody.services).offerAll ({}, .initial, ())
      PrivateBody.disorder).2.1.finish =
        .ok ⟨PrivateBody.file.header, [PrivateBody.body]⟩ := by
  have plain : ∀ site, .instruction (.dynamic site) ∈ PrivateBody.disorder →
      site.bootstrap.owner ≠ ({} : Config).metafactory := by
    intro site member
    simp [PrivateBody.disorder] at member
  have lockstep := offerAll_lockstep PrivateBody.services () plain PrivateBody.disorder
    (List.prefix_refl _)
  refine ⟨plain, lockstep.2.1.trans ?_⟩
  with_unfolding_all rfl

end LambdaLowering
