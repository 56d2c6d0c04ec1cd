import LambdaLowering.Batch
import LambdaLowering.Proofs.ActionRuns
import Mathlib.Data.Set.List

/-! Lowering several classes one after the other. -/

set_option autoImplicit false

namespace LambdaLowering

variable {S α β : Type}

theorem exists_eq_map_iff {image : α → β} {values : List β} :
    (∃ others : List α, values = others.map image) ↔
      ∀ value ∈ values, ∃ other, image other = value := by
  have ranges := Set.ext_iff.mp (Set.range_list_map image) values
  simpa [eq_comm] using ranges

namespace Action

theorem mapM_eq_ok_iff {act : α → Action S β} {answer : α → Except Error β}
    (answers : ∀ value state, answerOf (act value state) = answer value) {values : List α}
    {outs : List β} {state : S} :
    (∃ last, values.mapM act state = .ok outs last) ↔ values.map answer = outs.map .ok := by
  induction values generalizing outs state with
  | nil =>
    constructor
    · rintro ⟨last, ran⟩
      cases ran
      rfl
    · intro same
      obtain rfl := List.map_eq_nil_iff.mp same.symm
      exact ⟨state, rfl⟩
  | cons value values ih =>
    rw [List.mapM_cons, List.map_cons]
    constructor
    · rintro ⟨last, ran⟩
      obtain ⟨out, middle, head, afterHead⟩ := bind_eq_ok.mp ran
      obtain ⟨rest, after, tail, done⟩ := bind_eq_ok.mp afterHead
      cases done
      have first : answer value = .ok out := by rw [← answers value state, head, answerOf]
      rw [List.map_cons, first, ih.mp ⟨_, tail⟩]
    · intro same
      cases outs with
      | nil => cases same
      | cons out outs =>
        obtain ⟨first, rest⟩ := List.cons.inj same
        obtain ⟨middle, head⟩ := answerOf_eq_ok.mp ((answers value state).trans first)
        obtain ⟨last, tail⟩ : ∃ last, values.mapM act middle = .ok outs last := ih.mpr rest
        exact ⟨last, by rw [bind_of_ok head, bind_of_ok tail]; rfl⟩

theorem mapM_eq_error_iff {act : α → Action S β} {values : List α} {state last : S}
    {error : Error} :
    values.mapM act state = .error error last ↔
      ∃ passed value later outs middle, values = passed ++ value :: later ∧
        passed.mapM act state = .ok outs middle ∧ act value middle = .error error last := by
  induction values generalizing state with
  | nil =>
    constructor
    · intro ran
      cases ran
    · rintro ⟨passed, value, later, _, _, same, _⟩
      simp at same
  | cons first values ih =>
    rw [List.mapM_cons, bind_eq_error]
    constructor
    · rintro (failed | ⟨out, after, head, failed⟩)
      · exact ⟨[], first, values, [], state, rfl, rfl, failed⟩
      · rcases bind_eq_error.mp failed with failed | ⟨_, _, _, impossible⟩
        · obtain ⟨passed, value, later, outs, middle, rfl, ran, failed⟩ := ih.mp failed
          refine ⟨first :: passed, value, later, out :: outs, middle, rfl, ?_, failed⟩
          rw [List.mapM_cons, bind_of_ok head, bind_of_ok ran]
          rfl
        · cases impossible
    · rintro ⟨passed, value, later, outs, middle, same, ran, failed⟩
      cases passed with
      | nil =>
        cases same
        cases ran
        exact .inl failed
      | cons _ passed =>
        cases same
        rw [List.mapM_cons] at ran
        obtain ⟨out, after, head, afterHead⟩ := bind_eq_ok.mp ran
        obtain ⟨rest, _, tail, done⟩ := bind_eq_ok.mp afterHead
        cases done
        refine .inr ⟨out, after, head, bind_eq_error.mpr (.inl ?_)⟩
        exact ih.mpr ⟨passed, value, later, rest, middle, rfl, tail, failed⟩

end Action

theorem lowerClasses_sequential {config : Config} (sequential : config.parallel = false)
    (services : Services S) (files : List ClassFile) (state : S) :
    lowerClasses config services files state =
      files.mapM (lowerClass config services)
        (services.log (.batchStarted files.length false) state) := by
  unfold lowerClasses
  rw [sequential]
  rfl

theorem lowerClasses_parallel {config : Config} (parallel : config.parallel = true)
    (services : Services S) (files : List ClassFile) (state : S) :
    lowerClasses config services files state =
      (files.mapM (fun file => (lowerClass config services file).attempt) >>=
        fun outcomes => outcomes.mapM Action.ofExcept)
        (services.log (.batchStarted files.length true) state) := by
  unfold lowerClasses
  rw [parallel]
  rfl

theorem Action.answerOf_attempt (action : Action S α) (state : S) :
    answerOf (action.attempt state) = .ok (answerOf (action state)) := by
  unfold attempt
  cases action state <;> rfl

theorem Action.answerOf_ofExcept (outcome : Except Error α) (state : S) :
    answerOf (ofExcept outcome state) = outcome := by
  cases outcome <;> rfl

/-- If no class depends on the state, a batch comes to the classes that each of them comes to, one
after the other or in parallel. -/
theorem lowerClasses_eq_ok_iff {config : Config} {services : Services S}
    {alone : ClassFile → Except Error ClassFile}
    (answers : ∀ file state, Action.answerOf (lowerClass config services file state) = alone file)
    {files outs : List ClassFile} {state : S} :
    (∃ last, lowerClasses config services files state = .ok outs last) ↔
      files.map alone = outs.map .ok := by
  cases mode : config.parallel with
  | false =>
    rw [lowerClasses_sequential mode]
    exact Action.mapM_eq_ok_iff answers
  | true =>
    rw [lowerClasses_parallel mode]
    -- Each class is lowered, and how it ended is looked at only then.
    have attempts : ∀ file state,
        Action.answerOf ((lowerClass config services file).attempt state) = .ok (alone file) := by
      intro file state
      rw [Action.answerOf_attempt, answers]
    obtain ⟨reached, attempted⟩ : ∃ last,
        files.mapM (fun file => (lowerClass config services file).attempt)
          (services.log (.batchStarted files.length true) state) =
        .ok (files.map alone) last :=
      (Action.mapM_eq_ok_iff attempts).mpr List.map_map.symm
    rw [Action.bind_of_ok attempted, Action.mapM_eq_ok_iff Action.answerOf_ofExcept, List.map_id']

/-- One class after the other, a batch fails with the first class that does. The collaborators are
left as that class leaves them, so nothing is done for those behind it. -/
theorem lowerClasses_sequential_eq_error {config : Config} (sequential : config.parallel = false)
    {services : Services S} {files : List ClassFile} {state last : S} {error : Error} :
    lowerClasses config services files state = .error error last ↔
      ∃ passed file later outs middle, files = passed ++ file :: later ∧
        passed.mapM (lowerClass config services)
          (services.log (.batchStarted files.length false) state) = .ok outs middle ∧
        lowerClass config services file middle = .error error last := by
  rw [lowerClasses_sequential sequential, Action.mapM_eq_error_iff]

end LambdaLowering
