import LambdaLowering.Proofs.BuilderSteps

/-! Runs of a builder to which events are offered in any order.

A refused event changes nothing, and the builder goes on from where it was. What it has accepted is
at every moment the start of a class stream, and it accepts every event that keeps it so.
-/

set_option autoImplicit false

namespace LambdaLowering

variable {S : Type}

/-! ## Offering events -/

namespace Sink

def offer (sink : Sink S) (state : S) (event : Event) : Except Error Bool × S :=
  match sink.receive event state with
  | .ok kept state => (.ok kept, state)
  | .error error state => (.error error, state)

/-- The state after events that are offered one after the other, whatever the answers are. -/
def offerAll (sink : Sink S) (state : S) (events : List Event) : S :=
  events.foldl (fun state event => (sink.offer state event).2) state

def accepted (sink : Sink S) : S → List Event → List Event
  | _, [] => []
  | state, event :: events =>
    let (answer, next) := sink.offer state event
    (if answer.isOk then [event] else []) ++ sink.accepted next events

/-- A consumer that keeps everything and writes down what it receives. -/
def recorder : Sink (List Event) := ⟨fun event log => .ok true (log ++ [event])⟩

end Sink

theorem forM_recorder {α : Type} {pass : α → Action (List Event) Unit} {written : α → List Event}
    (passes : ∀ value log, pass value log = .ok () (log ++ written value)) (values : List α)
    (log : List Event) : values.forM pass log = .ok () (log ++ values.flatMap written) := by
  induction values generalizing log with
  | nil => simp
  | cons value values ih =>
    rw [Action.forM_cons, Action.bind_of_ok (passes value log), List.flatMap_cons,
      ← List.append_assoc]
    exact ih (log ++ written value)

theorem Method.streamTo_recorder (method : Method) (log : List Event) :
    method.streamTo Sink.recorder log = .ok () (log ++ method.events) := by
  have code : ∀ log, (method.code.forM fun one => Sink.recorder.send (.instruction one)) log =
      .ok () (log ++ method.code.flatMap fun one => [.instruction one]) :=
    forM_recorder (fun _ _ => rfl) method.code
  have header : Sink.recorder.receive (.methodHeader method.header) log =
      .ok true (log ++ [.methodHeader method.header]) := rfl
  rw [Method.streamTo, Action.bind_of_ok header]
  simp only [↓reduceIte]
  rw [Action.bind_of_ok (code _), Method.events, List.map_eq_flatMap]
  change EStateM.Result.ok () _ = _
  simp only [List.append_assoc, List.cons_append, List.nil_append]

theorem ClassFile.streamTo_recorder (file : ClassFile) (log : List Event) :
    file.streamTo Sink.recorder log = .ok () (log ++ file.events) := by
  have header : Sink.recorder.send (.classHeader file.header) log =
      .ok () (log ++ [.classHeader file.header]) := rfl
  have methods := forM_recorder Method.streamTo_recorder file.methods
    (log ++ [.classHeader file.header])
  rw [ClassFile.streamTo, Action.bind_of_ok header, Action.bind_of_ok methods, ClassFile.events]
  change EStateM.Result.ok () _ = _
  simp only [List.append_assoc, List.cons_append, List.nil_append]

/-! ## What a builder can become -/

namespace ClassBuilder

variable {builder next : ClassBuilder} {event : Event}

theorem Consistent.after?_events (consistent : builder.Consistent) :
    StreamPhase.initial.after? builder.events = some builder.phase := by
  cases consistent with
  | initial => rfl
  | inClass header methods =>
    rw [events_inClass]
    exact StreamPhase.after?_methods methods.toList
  | inMethod header methods current code =>
    have before := StreamPhase.after?_methods methods.toList
    rw [events_inMethod, ← List.singleton_append, StreamPhase.after?_append,
      StreamPhase.after?_singleton, StreamPhase.next?, Option.bind_some, StreamPhase.after?_append,
      before]
    exact StreamPhase.after?_code code.toList
  | finished file =>
    rw [events_finished]
    exact StreamPhase.after?_events file

theorem Consistent.completable (consistent : builder.Consistent) :
    ∃ rest, builder.events ++ rest ∈ ClassStream.grammar := by
  -- An open method has to end first; any class serves if there is no header yet.
  simp only [ClassStream.mem_grammar]
  cases consistent with
  | initial => exact ⟨(ClassFile.mk (.plain 0 .none "") []).events, _, rfl⟩
  | inClass header methods =>
    exact ⟨[.classEnd], ⟨header, methods.toList⟩, by simp [events_inClass, ClassFile.events]⟩
  | inMethod header methods current code =>
    refine ⟨[.methodEnd, .classEnd], ⟨header, methods.toList ++ [⟨current, code.toList⟩]⟩, ?_⟩
    simp [events_inMethod, ClassFile.events, Method.events]
  | finished file => exact ⟨[], file, by simp [events_finished]⟩

theorem Consistent.isStreamPrefix (consistent : builder.Consistent)
    (distinct : builder.declared.Nodup) : IsStreamPrefix builder.events where
  completable := consistent.completable
  distinct := by
    rw [← consistent.reverse_declared]
    exact List.nodup_reverse.mpr distinct

/-- An event that keeps what has been accepted the start of a class stream is accepted. -/
theorem Consistent.step_of_isStreamPrefix (consistent : builder.Consistent)
    (viable : IsStreamPrefix (builder.events ++ [event])) :
    ∃ next, builder.step event = .ok next := by
  apply step_ok_iff.mpr
  constructor
  · have phase := viable.after?
    rwa [StreamPhase.after?_append, consistent.after?_events, Option.bind_some,
      StreamPhase.after?_singleton] at phase
  · intro signature declared member
    have distinct := viable.distinct
    rw [declaredIn_append, ← consistent.reverse_declared, List.nodup_append] at distinct
    have here : signature ∈ declaredIn [event] := by
      simp [declaredIn, Option.mem_def.mp declared]
    exact distinct.2.2 signature (List.mem_reverse.mpr member) signature here rfl

theorem Consistent.exists_finish_iff (consistent : builder.Consistent)
    (distinct : builder.declared.Nodup) :
    (∃ file, builder.finish = .ok file) ↔ IsClassStream builder.events := by
  constructor
  · intro finishes
    obtain ⟨file, ended⟩ := finishes
    obtain rfl := (finish_eq_ok_iff consistent).mp ended
    refine ⟨ClassStream.mem_grammar.mpr ⟨file, events_finished file⟩, ?_⟩
    exact (consistent.isStreamPrefix distinct).distinct
  · intro whole
    obtain ⟨file, whole⟩ := ClassStream.mem_grammar.mp whole.word
    have phase := consistent.after?_events
    rw [whole, StreamPhase.after?_events, Option.some.injEq] at phase
    cases consistent with
    | finished file => exact ⟨file, rfl⟩
    | _ => cases phase

/-! ## Runs -/

theorem offer_of_accepts (accepts : Accepts builder event next) (state : S) :
    sink.offer (builder, state) event = (.ok true, (next, state)) := by
  rw [Sink.offer, receive_of_accepts accepts]

theorem offer_of_error {error : Error} (refused : builder.step event = .error error) (state : S) :
    sink.offer (builder, state) event = (.error error, (builder, state)) := by
  rw [Sink.offer, receive_of_error refused]

/-- The run lemma. The builder holds what it held and what it has accepted since; the state beside
it is left alone. -/
theorem offerAll_reaches (consistent : builder.Consistent) (distinct : builder.declared.Nodup)
    (state : S) (offered : List Event) :
    ∃ reached : ClassBuilder, sink.offerAll (builder, state) offered = (reached, state) ∧
      reached.events = builder.events ++ sink.accepted (builder, state) offered ∧
      reached.Consistent ∧ reached.declared.Nodup := by
  induction offered generalizing builder with
  | nil => exact ⟨builder, rfl, (List.append_nil _).symm, consistent, distinct⟩
  | cons event offered ih =>
    -- A refused event is not written down, and the rest is offered to the same builder.
    cases stepped : builder.step event with
    | error error =>
      have offer := offer_of_error stepped state
      obtain ⟨reached, run, held, keeps⟩ := ih consistent distinct
      refine ⟨reached, ?_, ?_, keeps⟩
      · rw [← run, Sink.offerAll, List.foldl_cons, offer]
        rfl
      · rw [held, Sink.accepted, offer]
        rfl
    | ok next =>
      have accepts := consistent.accepts stepped
      have offer := offer_of_accepts accepts state
      obtain ⟨reached, run, held, keeps⟩ := ih accepts.consistent (accepts.nodup_declared distinct)
      refine ⟨reached, ?_, ?_, keeps⟩
      · rw [← run, Sink.offerAll, List.foldl_cons, offer]
        rfl
      · rw [held, accepts.events_eq, Sink.accepted, offer, List.append_assoc]
        rfl

/-- Events are offered to a fresh builder in any order, and it goes on after every refusal. What it
has accepted is the start of a class stream, and its header, its methods, the open one too, its
phase and its signatures are those of just these events. A refused event leaves the whole builder
as it was, and no event is refused that keeps what was accepted the start of a class stream. The
class is finished exactly if a whole stream was accepted, and its own stream is then that one. -/
theorem offerAll_initial_isStreamPrefix (state : S) (offered : List Event) :
    let accepted := sink.accepted (initial, state) offered
    let reached := sink.offerAll (initial, state) offered
    IsStreamPrefix accepted ∧
    reached.1.events = accepted ∧
    StreamPhase.initial.after? accepted = some reached.1.phase ∧
    reached.1.declared.reverse = declaredIn accepted ∧
    (∀ event error after, sink.receive event reached = .error error after → after = reached) ∧
    (∀ event, IsStreamPrefix (accepted ++ [event]) →
      ∃ after, sink.receive event reached = .ok true after) ∧
    ((∃ file, reached.1.finish = .ok file) ↔ IsClassStream accepted) ∧
    (∀ file, reached.1.finish = .ok file →
      file.streamTo Sink.recorder [] = .ok () accepted) := by
  intro accepted reached
  obtain ⟨builder, run, held, consistent, distinct⟩ :=
    offerAll_reaches .initial List.nodup_nil state offered
  have whole : builder.events = accepted := held
  have position : reached = (builder, state) := run
  rw [position, ← whole]
  refine ⟨consistent.isStreamPrefix distinct, rfl, consistent.after?_events,
    consistent.reverse_declared, ?_, ?_, consistent.exists_finish_iff distinct, ?_⟩
  · intro event error after refused
    cases stepped : builder.step event with
    | error _ =>
      rw [receive_of_error stepped] at refused
      exact (EStateM.Result.error.inj refused).2.symm
    | ok next =>
      rw [receive_of_accepts (consistent.accepts stepped)] at refused
      cases refused
  · intro event viable
    obtain ⟨next, stepped⟩ := consistent.step_of_isStreamPrefix viable
    exact ⟨(next, state), receive_of_accepts (consistent.accepts stepped) state⟩
  · intro file ended
    obtain rfl := (finish_eq_ok_iff consistent).mp ended
    rw [ClassFile.streamTo_recorder, List.nil_append, events_finished]

end ClassBuilder

end LambdaLowering
