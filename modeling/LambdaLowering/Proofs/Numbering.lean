import LambdaLowering.LambdaSequence
import LambdaLowering.Proofs.Batches
import LambdaLowering.Proofs.Requests

/-! Batches whose generated classes are numbered.

Every generated class takes one number of a sequence. If the sequence starts over with every host
class, a class comes out of a batch as it comes out alone, whatever was lowered before it.
-/

set_option autoImplicit false

namespace LambdaLowering

variable {S T α : Type}

namespace Agree

theorem of_answers {states : S → T → Prop} {left : EStateM.Result Error S α}
    {right : EStateM.Result Error T α} (answers : Action.answerOf left = Action.answerOf right)
    (related : states (Action.stateAfter left) (Action.stateAfter right)) :
    Agree (Alike states) states left right := by
  cases left with
  | ok value state =>
    cases right with
    | ok other beside =>
      cases answers
      exact .ok ⟨rfl, related⟩
    | error error beside => cases answers
  | error error state =>
    cases right with
    | ok other beside => cases answers
    | error error beside =>
      cases answers
      exact .error related

theorem answerOf_eq {states : S → T → Prop} {left : EStateM.Result Error S α}
    {right : EStateM.Result Error T α} (agree : Agree (Alike states) states left right) :
    Action.answerOf left = Action.answerOf right := by
  cases agree with
  | ok related => rw [related.1]; rfl
  | error related => rfl

end Agree

theorem lowerDirectly_startState (config : Config) (services : Services S) (file : ClassFile)
    (state : S) :
    lowerDirectly config services file state =
      lowerDirectly { config with restartNumbering := false } services file
        (config.startState services state) := by
  unfold lowerDirectly
  rw [Action.bind_of_ok (Action.modify_apply _ _), Action.bind_of_ok (Action.modify_apply _ _)]
  rfl

/-- Collaborators that number what they generate. Somewhere in their state is a sequence. A class is
loaded or not by its name alone, and the factory of a lambda depends on the request and on one
number, which is the next of the sequence. To start the numbering over never fails. -/
structure Services.NumberedBy (services : Services S) (sequence : S → LambdaSequence)
    (located : String → Except Error LoadedClass)
    (generated : LambdaRequest → UInt32 → Except Error Factory) : Prop where
  load : ∀ name state,
    Action.answerOf (services.load name state) = located name ∧
      sequence (Action.stateAfter (services.load name state)) = sequence state
  reify : ∀ request state,
    Action.answerOf (services.reify request state) = generated request (sequence state).next.1 ∧
      sequence (Action.stateAfter (services.reify request state)) = (sequence state).next.2
  restart : ∀ state,
    Action.answerOf (services.restartNumbering state) = .ok () ∧
      sequence (Action.stateAfter (services.restartNumbering state)) = (sequence state).reset
  log : ∀ entry state, sequence (services.log entry state) = sequence state

namespace Services.NumberedBy

variable {services : Services S} {sequence : S → LambdaSequence}
variable {located : String → Except Error LoadedClass}
variable {generated : LambdaRequest → UInt32 → Except Error Factory}

theorem simulate (numbered : services.NumberedBy sequence located generated) :
    Simulate (fun state beside => sequence state = sequence beside) services services where
  load := by
    intro name state beside same
    obtain ⟨answer, kept⟩ := numbered.load name state
    obtain ⟨answer', kept'⟩ := numbered.load name beside
    exact .of_answers (answer.trans answer'.symm) (kept.trans (same.trans kept'.symm))
  reify := by
    intro request state beside same
    obtain ⟨answer, after⟩ := numbered.reify request state
    obtain ⟨answer', after'⟩ := numbered.reify request beside
    rw [← same] at answer' after'
    exact .of_answers (answer.trans answer'.symm) (after.trans after'.symm)
  restart := by
    intro state beside same
    obtain ⟨answer, after⟩ := numbered.restart state
    obtain ⟨answer', after'⟩ := numbered.restart beside
    exact .of_answers (answer.trans answer'.symm) (after.trans after'.symm)
  log := by
    intro entry state beside same
    rw [numbered.log, numbered.log, same]

theorem sequence_restarted (numbered : services.NumberedBy sequence located generated)
    (state : S) : sequence (services.restarted state) = {} := by
  obtain ⟨answer, after⟩ := numbered.restart state
  unfold Services.restarted
  cases ran : services.restartNumbering state with
  | ok _ reached =>
    rw [ran] at after
    exact after
  | error error reached =>
    rw [ran] at answer
    cases answer

theorem sequence_startState (numbered : services.NumberedBy sequence located generated)
    {config : Config} {state : S}
    (first : config.restartNumbering = true ∨ (sequence state).current = 0) :
    sequence (config.startState services state) = {} := by
  unfold Config.startState
  split
  next => exact numbered.sequence_restarted state
  next goesOn =>
    have zero := first.resolve_left goesOn
    exact congrArg LambdaSequence.mk zero

theorem answerOf_lowerClass (numbered : services.NumberedBy sequence located generated)
    {config : Config} (restarts : config.restartNumbering = true) {lone : S}
    (zero : (sequence lone).current = 0) (restartsAlone : Bool) (file : ClassFile) (state : S) :
    Action.answerOf (lowerClass config services file state) =
      Action.answerOf
        (lowerClass { config with restartNumbering := restartsAlone } services file lone) := by
  rw [lowerClass_eq_lowerDirectly, lowerClass_eq_lowerDirectly, lowerDirectly_startState,
    lowerDirectly_startState _ _ _ lone]
  have inBatch : sequence (config.startState services state) = {} :=
    numbered.sequence_startState (.inl restarts)
  have alone : sequence (({ config with restartNumbering := restartsAlone } : Config).startState
      services lone) = {} :=
    numbered.sequence_startState (.inr zero)
  -- From the first number on, all depends on the class alone.
  exact (numbered.simulate.lowerDirectly _ (fun _ _ _ _ => rfl)
    (inBatch.trans alone.symm)).answerOf_eq

end Services.NumberedBy

/-- With numbering that starts over with every class, lowering one class after the other gives just
what each class gives alone, when the sequence is at its first number. It does not matter where the
sequence was before the batch, nor what was lowered earlier in it. Accessors take no number of the
sequence, and they are written as `Accessor.declaration`, not by the collaborators. -/
theorem lowerClasses_numberedBy {services : Services S} {sequence : S → LambdaSequence}
    {located : String → Except Error LoadedClass}
    {generated : LambdaRequest → UInt32 → Except Error Factory} {config : Config} {lone : S}
    (numbered : services.NumberedBy sequence located generated)
    (restarts : config.restartNumbering = true) (sequential : config.parallel = false)
    (zero : (sequence lone).current = 0) (restartsAlone : Bool) (files : List ClassFile)
    (state : S) :
    let alone := fun file => Action.answerOf
      (lowerClass { config with restartNumbering := restartsAlone } services file lone)
    (∀ outs, (∃ last, lowerClasses config services files state = .ok outs last) ↔
      files.map alone = outs.map .ok) ∧
    ((∃ outs last, lowerClasses config services files state = .ok outs last) ↔
      ∀ file ∈ files, ∃ out, alone file = .ok out) := by
  intro alone
  have exact : ∀ outs, (∃ last, lowerClasses config services files state = .ok outs last) ↔
      files.map alone = outs.map .ok := by
    intro outs
    rw [lowerClasses_sequential sequential]
    exact Action.mapM_eq_ok_iff (numbered.answerOf_lowerClass restarts zero restartsAlone)
  refine ⟨exact, ?_⟩
  rw [exists_congr exact, exists_eq_map_iff, List.forall_mem_map]
  simp only [eq_comm]

namespace PrivateBody

def counting : Services LambdaSequence where
  declared := services.declared
  load := fun name => pure ⟨name⟩
  reify := fun request sequence =>
    let (number, sequence) := sequence.next
    .ok ⟨"a/M$" ++ toString number, "make", request.invokedType⟩ sequence
  restartNumbering := modify LambdaSequence.reset

def numbered : ClassFile where
  header := file.header
  methods := [
    { run with code := [.invoke .invokestatic "a/M$0" "make" site.descriptor false,
        .invoke .invokestatic "a/M$1" "make" site.descriptor false, .simple .voidReturn] }] ++
    loweredTwice.methods.tail

theorem counting_numberedBy : counting.NumberedBy id (fun name => .ok ⟨name⟩)
    fun request number => .ok ⟨"a/M$" ++ toString number, "make", request.invokedType⟩ where
  load _ _ := ⟨rfl, rfl⟩
  reify _ _ := ⟨rfl, rfl⟩
  restart _ := ⟨rfl, rfl⟩
  log _ _ := rfl

end PrivateBody

/-- The batch starts with the last number before the sequence wraps around, and yet each of the two
classes gets the numbers zero and one. -/
theorem lowerClasses_numberedBy_counting :
    PrivateBody.counting.NumberedBy id (fun name => .ok ⟨name⟩)
      (fun request number => .ok ⟨"a/M$" ++ toString number, "make", request.invokedType⟩) ∧
    Config.deterministic.restartNumbering = true ∧ Config.deterministic.parallel = false ∧
    (id ({} : LambdaSequence)).current = 0 ∧
    ∃ last, lowerClasses .deterministic PrivateBody.counting [PrivateBody.twice, PrivateBody.twice]
      ⟨4294967295⟩ = .ok [PrivateBody.numbered, PrivateBody.numbered] last := by
  have alone : Action.answerOf (lowerClass { Config.deterministic with restartNumbering := false }
      PrivateBody.counting PrivateBody.twice {}) = .ok PrivateBody.numbered := by
    rw [lowerClass_eq_lowerDirectly]
    rfl
  refine ⟨PrivateBody.counting_numberedBy, rfl, rfl, rfl, ?_⟩
  apply ((lowerClasses_numberedBy PrivateBody.counting_numberedBy rfl rfl rfl false
    [PrivateBody.twice, PrivateBody.twice] ⟨4294967295⟩).1 _).mpr
  simp only [List.map_cons, List.map_nil, alone]

end LambdaLowering
