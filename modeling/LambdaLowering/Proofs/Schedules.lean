import LambdaLowering.LambdaSequence
import LambdaLowering.Proofs.Batches
import LambdaLowering.Proofs.Requests
import LambdaLowering.Proofs.Sessions
import Mathlib.Order.WellFounded

/-! Batches in any order.

The sessions of a batch take turns with their collaborators, one call at a time, in an order that
nothing is known of. If each answer depends on the question alone, the order decides neither whether
the batch succeeds nor what it comes to. What the order can decide is the numbering, which every
session may start over, and which of several failures is seen first.
-/

set_option autoImplicit false

namespace LambdaLowering

variable {S α β : Type}

/-- Collaborators that answer a question in the same way at all times. This says nothing of the
numbering, which may start over or fail to at will. -/
structure Services.AnsweredBy (services : Services S) (located : String → Except Error LoadedClass)
    (generated : LambdaRequest → Except Error Factory) : Prop where
  load : ∀ name state, Action.answerOf (services.load name state) = located name
  reify : ∀ request state, Action.answerOf (services.reify request state) = generated request

namespace Session

/-! ## Sessions that come to one outcome -/

/-- The session comes to this outcome, in whatever states its calls are answered. -/
def Settles (services : Services S) : Session α → Except Error α → Prop
  | .done value, outcome => outcome = .ok value
  | .stopped error, outcome => outcome = .error error
  | .asks call next, outcome =>
    ∀ state, (next (services.answer call state).1).Settles services outcome

def Settled (services : Services S) (session : Session α) : Prop :=
  ∃ outcome, session.Settles services outcome

variable {services : Services S}

theorem Settles.answerOf_run {session : Session α} {outcome : Except Error α}
    (settles : session.Settles services outcome) (state : S) :
    Action.answerOf (session.run services state) = outcome := by
  induction session generalizing state with
  | done value => exact settles.symm
  | stopped error => exact settles.symm
  | asks call next ih => exact ih _ (settles state) _

theorem Settles.bind_ok {session : Session α} {rest : α → Session β} {value : α}
    {outcome : Except Error β} (settles : session.Settles services (.ok value))
    (goesOn : (rest value).Settles services outcome) :
    (session >>= rest).Settles services outcome := by
  induction session with
  | done same =>
    cases settles
    exact goesOn
  | stopped error => cases settles
  | asks call next ih => exact fun state => ih _ (settles state)

theorem Settles.bind_error {session : Session α} {error : Error}
    (settles : session.Settles services (.error error)) (rest : α → Session β) :
    (session >>= rest).Settles services (.error error) := by
  induction session with
  | done value => cases settles
  | stopped same =>
    cases settles
    rfl
  | asks call next ih => exact fun state => ih _ (settles state)

namespace Settled

theorem bind {session : Session α} {rest : α → Session β} (settled : session.Settled services)
    (goesOn : ∀ value, (rest value).Settled services) : (session >>= rest).Settled services := by
  obtain ⟨error | value, settles⟩ := settled
  · exact ⟨_, settles.bind_error rest⟩
  · obtain ⟨outcome, later⟩ := goesOn value
    exact ⟨outcome, settles.bind_ok later⟩

theorem pure (value : α) : (pure value : Session α).Settled services := ⟨.ok value, rfl⟩

theorem ofExcept (outcome : Except Error α) : (ofExcept outcome).Settled services := by
  cases outcome with
  | ok value => exact ⟨.ok value, rfl⟩
  | error error => exact ⟨.error error, rfl⟩

theorem report (entry : LogRecord) : (report entry).Settled services := ⟨.ok (), fun _ => rfl⟩

theorem tryRestart : tryRestart.Settled services := by
  refine ⟨.ok (), fun state => ?_⟩
  cases (services.answer .restart state).1 with
  | ok _ => rfl
  | error error => exact fun _ => rfl

section AnsweredBy

variable {located : String → Except Error LoadedClass}
variable {generated : LambdaRequest → Except Error Factory}

theorem load (answered : services.AnsweredBy located generated) (name : String) :
    (load name).Settled services := by
  obtain ⟨outcome, settles⟩ : (Session.ofExcept (located name)).Settled services := .ofExcept _
  refine ⟨outcome, fun state => ?_⟩
  rw [← answered.load name state] at settles
  exact settles

theorem reify (answered : services.AnsweredBy located generated) (request : LambdaRequest) :
    (reify request).Settled services := by
  obtain ⟨outcome, settles⟩ : (Session.ofExcept (generated request)).Settled services :=
    .ofExcept _
  refine ⟨outcome, fun state => ?_⟩
  rw [← answered.reify request state] at settles
  exact settles

variable (answered : services.AnsweredBy located generated)
variable (declared : Declarations) (metafactory : String) (host : HostClass)

theorem resolve (target : MethodRef) (pending : PendingAccessors) :
    (resolve declared host target pending).Settled services := by
  unfold Session.resolve
  split
  · exact ⟨_, rfl⟩
  · exact .pure _
  · exact (Settled.report _).bind fun _ => .pure _

include answered

theorem factoryFor (site : CallSite) (pending : PendingAccessors) :
    (factoryFor declared host site pending).Settled services := by
  unfold Session.factoryFor
  apply (Settled.load answered host.name).bind
  intro invoker
  split
  · exact ⟨_, rfl⟩
  · apply (Settled.resolve declared host _ pending).bind
    rintro ⟨callee, pending⟩
    apply (Settled.reify answered _).bind
    intro factory
    exact (Settled.report _).bind fun _ => .pure _

theorem lowerInstruction (one : Instruction) (pending : PendingAccessors) :
    (lowerInstruction declared metafactory host one pending).Settled services := by
  unfold Session.lowerInstruction
  split
  · exact .pure _
  · exact (Settled.factoryFor answered declared host _ pending).bind fun _ => .pure _

theorem lowerCode (code : List Instruction) (pending : PendingAccessors) :
    (lowerCode declared metafactory host code pending).Settled services := by
  induction code generalizing pending with
  | nil => exact .pure _
  | cons one code ih =>
    unfold Session.lowerCode
    apply (Settled.lowerInstruction answered declared metafactory host one pending).bind
    rintro ⟨first, pending⟩
    exact (ih pending).bind fun _ => .pure _

theorem lowerMethods (taken : List MethodSignature) (methods : List Method)
    (pending : PendingAccessors) :
    (lowerMethods declared metafactory host taken methods pending).Settled services := by
  induction methods generalizing taken pending with
  | nil => exact .pure _
  | cons method methods ih =>
    unfold Session.lowerMethods
    split
    · exact (Settled.report _).bind fun _ => ih taken pending
    · apply (Settled.ofExcept _).bind
      intro _
      apply (Settled.lowerCode answered declared metafactory host method.code pending).bind
      rintro ⟨code, pending⟩
      exact (ih _ pending).bind fun _ => .pure _

theorem lowerClass (config : Config) (file : ClassFile) :
    (lowerClass config declared file).Settled services := by
  have started : (start config).Settled services := by
    unfold start
    split
    · exact .tryRestart
    · exact .pure _
  unfold Session.lowerClass
  apply started.bind
  intro _
  apply (Settled.lowerMethods answered declared config.metafactory _ [] file.methods .empty).bind
  rintro ⟨methods, pending⟩
  exact (Settled.ofExcept _).bind fun _ => (Settled.report _).bind fun _ => .pure _

end AnsweredBy

end Settled

/-- The session of a class comes to what the class comes to alone. -/
theorem settles_lowerClass {located : String → Except Error LoadedClass}
    {generated : LambdaRequest → Except Error Factory}
    (answered : services.AnsweredBy located generated) (config : Config) (file : ClassFile)
    (lone : S) :
    (lowerClass config services.declared file).Settles services
      (Action.answerOf (LambdaLowering.lowerClass config services file lone)) := by
  obtain ⟨outcome, settles⟩ := Settled.lowerClass answered services.declared config file
  rw [← run_lowerClass, settles.answerOf_run lone]
  exact settles

end Session

/-! ## Sessions side by side -/

/-- Sessions that share their collaborators. -/
structure Pool (S α : Type) where
  shared : S
  tasks : List (Session α)

namespace Pool

def turn (services : Services S) (pool : Pool S α) (position : Nat) : Pool S α :=
  match pool.tasks[position]? with
  | some (.asks call next) =>
    let (answer, shared) := services.answer call pool.shared
    ⟨shared, pool.tasks.set position (next answer)⟩
  | _ => pool

def after (services : Services S) (pool : Pool S α) (schedule : List Nat) : Pool S α :=
  schedule.foldl (turn services) pool

def Busy (pool : Pool S α) (position : Nat) : Prop :=
  ∃ call next, pool.tasks[position]? = some (.asks call next)

/-- What sessions have come to together. They succeed once each is done, and fail as soon as one is
stopped, whether the others have ended or not. -/
inductive Ended : List (Session α) → Except Error (List α) → Prop
  | succeeded {values : List α} : Ended (values.map .done) (.ok values)
  | failed {tasks : List (Session α)} {error : Error} (stopped : .stopped error ∈ tasks) :
    Ended tasks (.error error)

/-- One of the sessions has had one more of its calls answered. -/
inductive Advances (services : Services S) : List (Session α) → List (Session α) → Prop
  | head {call : Call} {next : call.Answer → Session α} {rest : List (Session α)} (state : S) :
    Advances services (.asks call next :: rest) (next (services.answer call state).1 :: rest)
  | tail {task : Session α} {rest later : List (Session α)}
    (advances : Advances services rest later) :
    Advances services (task :: rest) (task :: later)

variable {services : Services S}

theorem advances_set {tasks : List (Session α)} {position : Nat} {call : Call}
    {next : call.Answer → Session α} (found : tasks[position]? = some (.asks call next))
    (state : S) :
    Advances services tasks (tasks.set position (next (services.answer call state).1)) := by
  induction tasks generalizing position with
  | nil => simp at found
  | cons task tasks ih =>
    cases position with
    | zero =>
      cases found
      exact .head state
    | succ position => exact .tail (ih found)

theorem Busy.advances {pool : Pool S α} {position : Nat} (busy : pool.Busy position) :
    Advances services pool.tasks (pool.turn services position).tasks := by
  obtain ⟨call, next, found⟩ := busy
  simp only [turn, found]
  exact advances_set found pool.shared

theorem turn_of_not_busy {pool : Pool S α} {position : Nat} (idle : ¬pool.Busy position) :
    pool.turn services position = pool := by
  unfold turn
  split
  next call next found => exact absurd ⟨call, next, found⟩ idle
  next => rfl

theorem after_append (pool : Pool S α) (schedule later : List Nat) :
    pool.after services (schedule ++ later) = (pool.after services schedule).after services later :=
  List.foldl_append

/-! ## Every schedule ends -/

theorem acc_cons (task : Session α) {rest : List (Session α)}
    (acc : Acc (fun later earlier => Advances services earlier later) rest) :
    Acc (fun later earlier => Advances services earlier later) (task :: rest) := by
  -- Outside, the session in front goes on. Inside, one of the others does.
  induction task generalizing rest with
  | done _ | stopped _ =>
    induction acc with
    | intro rest _ ih =>
      refine ⟨_, ?_⟩
      rintro _ ⟨⟩
      exact ih _ ‹_›
  | asks call next front =>
    induction acc with
    | intro rest others ih =>
      refine ⟨_, ?_⟩
      rintro _ (⟨state⟩ | advances)
      · exact front _ ⟨_, others⟩
      · exact ih _ advances

theorem advances_wellFounded (services : Services S) :
    WellFounded fun later earlier : List (Session α) => Advances services earlier later := by
  constructor
  intro tasks
  induction tasks with
  | nil =>
    refine ⟨_, ?_⟩
    rintro _ ⟨⟩
  | cons task tasks ih => exact acc_cons task ih

/-- No endless schedule has a call to make at every turn. -/
theorem exists_not_busy (services : Services S) (pool : Pool S α) (turns : Nat → Nat) :
    ∃ count, ¬(pool.after services ((List.range count).map turns)).Busy (turns count) := by
  by_contra always
  push Not at always
  have endless : ∀ count, Advances services
      (pool.after services ((List.range count).map turns)).tasks
      (pool.after services ((List.range (count + 1)).map turns)).tasks := by
    intro count
    rw [List.range_succ, List.map_append, after_append]
    exact (always count).advances
  have : IsWellFounded (List (Session α)) fun later earlier => Advances services earlier later :=
    ⟨advances_wellFounded services⟩
  obtain ⟨count, stops⟩ := WellFounded.not_rel_apply_succ
    (r := fun later earlier : List (Session α) => Advances services earlier later)
    fun count => (pool.after services ((List.range count).map turns)).tasks
  exact stops (endless count)

theorem exists_ended {pool : Pool S α} (idle : ∀ position, ¬pool.Busy position) :
    ∃ outcome, Ended pool.tasks outcome := by
  by_cases failed : ∃ error, .stopped error ∈ pool.tasks
  · obtain ⟨error, stopped⟩ := failed
    exact ⟨_, .failed stopped⟩
  · have done : ∀ task ∈ pool.tasks, ∃ value, .done value = task := by
      intro task member
      cases task with
      | done value => exact ⟨value, rfl⟩
      | stopped error => exact absurd ⟨error, member⟩ failed
      | asks call next =>
        obtain ⟨position, found⟩ := List.mem_iff_getElem?.mp member
        exact absurd ⟨call, next, found⟩ (idle position)
    obtain ⟨values, same⟩ := exists_eq_map_iff.mpr done
    rw [same]
    exact ⟨_, .succeeded⟩

theorem exists_after_ended (services : Services S) (pool : Pool S α) :
    ∃ schedule outcome, Ended (pool.after services schedule).tasks outcome := by
  obtain ⟨shared, tasks⟩ := pool
  induction tasks using (advances_wellFounded services).induction generalizing shared with
  | _ tasks ih =>
    by_cases busy : ∃ position, (Pool.mk shared tasks).Busy position
    · obtain ⟨position, busy⟩ := busy
      obtain ⟨schedule, outcome, ended⟩ := ih _ busy.advances _
      exact ⟨position :: schedule, outcome, ended⟩
    · obtain ⟨outcome, ended⟩ := exists_ended (not_exists.mp busy)
      exact ⟨[], outcome, ended⟩

/-! ## Every schedule comes to the same -/

theorem Advances.settles {tasks later : List (Session α)} {outcomes : List (Except Error α)}
    (advances : Advances services tasks later)
    (settle : tasks.Forall₂ (Session.Settles services) outcomes) :
    later.Forall₂ (Session.Settles services) outcomes := by
  induction advances generalizing outcomes with
  | head state =>
    cases settle with
    | cons first rest => exact .cons (first state) rest
  | tail _ ih =>
    cases settle with
    | cons first rest => exact .cons first (ih rest)

theorem turn_settles {pool : Pool S α} {outcomes : List (Except Error α)}
    (settle : pool.tasks.Forall₂ (Session.Settles services) outcomes) (position : Nat) :
    (pool.turn services position).tasks.Forall₂ (Session.Settles services) outcomes := by
  by_cases busy : pool.Busy position
  · exact busy.advances.settles settle
  · rw [turn_of_not_busy busy]
    exact settle

theorem after_settles {pool : Pool S α} {outcomes : List (Except Error α)}
    (settle : pool.tasks.Forall₂ (Session.Settles services) outcomes) (schedule : List Nat) :
    (pool.after services schedule).tasks.Forall₂ (Session.Settles services) outcomes := by
  induction schedule generalizing pool with
  | nil => exact settle
  | cons position schedule ih => exact ih (turn_settles settle position)

theorem outcomes_of_done {values : List α} {outcomes : List (Except Error α)}
    (settle : (values.map .done).Forall₂ (Session.Settles services) outcomes) :
    outcomes = values.map .ok := by
  induction values generalizing outcomes with
  | nil =>
    cases settle
    rfl
  | cons value values ih =>
    cases settle with
    | cons first rest =>
      cases first
      rw [ih rest, List.map_cons]

theorem error_mem_of_stopped {tasks : List (Session α)} {outcomes : List (Except Error α)}
    {error : Error} (settle : tasks.Forall₂ (Session.Settles services) outcomes)
    (stopped : .stopped error ∈ tasks) : .error error ∈ outcomes := by
  induction settle with
  | nil => simp at stopped
  | cons first _ ih =>
    rcases List.mem_cons.mp stopped with same | later
    · subst same
      cases first
      exact List.mem_cons_self
    · exact List.mem_cons_of_mem _ (ih later)

theorem Ended.eq_ok_iff {tasks : List (Session α)} {outcome : Except Error (List α)}
    {outcomes : List (Except Error α)} (ended : Ended tasks outcome)
    (settle : tasks.Forall₂ (Session.Settles services) outcomes) (values : List α) :
    outcome = .ok values ↔ outcomes = values.map .ok := by
  cases ended with
  | @succeeded reached =>
    rw [outcomes_of_done settle]
    constructor
    · intro same
      cases same
      rfl
    · intro same
      have injective : (Except.ok : α → Except Error α).Injective := fun _ _ => Except.ok.inj
      rw [List.map_injective_iff.mpr injective same]
  | failed stopped =>
    constructor
    · intro impossible
      cases impossible
    · intro same
      have member := error_mem_of_stopped settle stopped
      simp [same] at member

def ofBatch (config : Config) (services : Services S) (files : List ClassFile) (state : S) :
    Pool S ClassFile where
  shared := services.log (.batchStarted files.length config.parallel) state
  tasks := files.map (Session.lowerClass config services.declared)

theorem ofBatch_settles {located : String → Except Error LoadedClass}
    {generated : LambdaRequest → Except Error Factory}
    (answered : services.AnsweredBy located generated) (config : Config) (files : List ClassFile)
    (state lone : S) :
    (ofBatch config services files state).tasks.Forall₂ (Session.Settles services)
      (files.map fun file => Action.answerOf (lowerClass config services file lone)) := by
  rw [ofBatch, List.forall₂_map_left_iff, List.forall₂_map_right_iff, List.forall₂_same]
  intro file _
  exact Session.settles_lowerClass answered config file lone

end Pool

/-! ## Batches -/

theorem Services.AnsweredBy.answerOf_lowerClass {services : Services S}
    {located : String → Except Error LoadedClass} {generated : LambdaRequest → Except Error Factory}
    (answered : services.AnsweredBy located generated) (config : Config) (file : ClassFile)
    (state lone : S) :
    Action.answerOf (lowerClass config services file state) =
      Action.answerOf (lowerClass config services file lone) := by
  have settles := Session.settles_lowerClass answered config file lone
  rw [← settles.answerOf_run state, Session.run_lowerClass]

/-- Let every answer depend on the question alone. Then a batch succeeds in any order of its calls
if it succeeds one class after the other, and with the same classes: each in its place, and as it is
alone. Any schedule that has begun can be brought to an end, and none goes on forever. One class
after the other, a batch fails with the first class that does, and nothing is done after it.
Collaborators write no accessors: each class has its own written as `Accessor.declaration`. -/
theorem lowerClasses_schedules {services : Services S}
    {located : String → Except Error LoadedClass} {generated : LambdaRequest → Except Error Factory}
    (answered : services.AnsweredBy located generated) (config : Config) (files : List ClassFile)
    (state begun lone : S) :
    let alone := fun file => Action.answerOf (lowerClass config services file lone)
    let sequential := lowerClasses { config with parallel := false } services files state
    let batch := (Pool.ofBatch config services files begun).after services
    (∀ schedule outcome, Pool.Ended (batch schedule).tasks outcome →
      ∀ outs, outcome = .ok outs ↔ ∃ last, sequential = .ok outs last) ∧
    (∀ schedule, ∃ later outcome, Pool.Ended (batch (schedule ++ later)).tasks outcome) ∧
    (∀ turns : Nat → Nat, ∃ count, ¬(batch ((List.range count).map turns)).Busy (turns count)) ∧
    (∀ outs, (∃ last, lowerClasses { config with parallel := true } services files begun =
      .ok outs last) ↔ ∃ last, sequential = .ok outs last) ∧
    (∀ outs last, sequential = .ok outs last → outs.length = files.length ∧
      ∀ (index : Nat) file out, files[index]? = some file → outs[index]? = some out →
        alone file = .ok out) ∧
    (∀ error last, sequential = .error error last →
      ∃ passed file later outs middle, files = passed ++ file :: later ∧
        (∀ earlier ∈ passed, ∃ out, alone earlier = .ok out) ∧ alone file = .error error ∧
        passed.mapM (lowerClass config services)
          (services.log (.batchStarted files.length false) state) = .ok outs middle ∧
        lowerClass config services file middle = .error error last) := by
  intro alone sequential batch
  -- Whether the batch is lowered in parallel is no matter for a class.
  have answers : ∀ (parallel : Bool) file state,
      Action.answerOf (lowerClass { config with parallel } services file state) = alone file :=
    fun _ file state => answered.answerOf_lowerClass config file state lone
  have exact : ∀ outs, (∃ last, sequential = .ok outs last) ↔ files.map alone = outs.map .ok :=
    fun outs => lowerClasses_eq_ok_iff (answers false)
  refine ⟨?order, ?ends, Pool.exists_not_busy services _, ?parallel, ?places, ?failure⟩
  case order =>
    intro schedule outcome ended outs
    rw [exact]
    exact ended.eq_ok_iff
      (Pool.after_settles (Pool.ofBatch_settles answered config files begun lone) schedule) outs
  case ends =>
    intro schedule
    obtain ⟨later, outcome, ended⟩ := Pool.exists_after_ended services (batch schedule)
    exact ⟨later, outcome, by rwa [← Pool.after_append] at ended⟩
  case parallel =>
    intro outs
    rw [exact]
    exact lowerClasses_eq_ok_iff (answers true)
  case places =>
    intro outs last ran
    have same := (exact outs).mp ⟨last, ran⟩
    refine ⟨by simpa using (congrArg List.length same).symm, ?_⟩
    intro index file out found reached
    have here := congrArg (·[index]?) same
    simpa [found, reached] using here
  case failure =>
    intro error last ran
    obtain ⟨passed, file, later, outs, middle, split, before, failed⟩ :=
      (lowerClasses_sequential_eq_error rfl).mp ran
    refine ⟨passed, file, later, outs, middle, split, ?_, ?_, before, failed⟩
    · intro earlier member
      have same := (Action.mapM_eq_ok_iff (answers false)).mp ⟨middle, before⟩
      have inside : alone earlier ∈ outs.map .ok := same ▸ List.mem_map_of_mem member
      obtain ⟨out, _, reached⟩ := List.mem_map.mp inside
      exact ⟨out, reached.symm⟩
    · rw [← answers false file middle, failed]
      rfl

namespace PrivateBody

/-- Every lambda takes a number of the sequence, but its factory does not show it. -/
def unnumbered : Services LambdaSequence where
  declared := services.declared
  load := fun name => pure ⟨name⟩
  reify := fun request sequence =>
    .ok ⟨"a/M$0", "make", request.invokedType⟩ sequence.next.2
  restartNumbering := modify LambdaSequence.reset

theorem unnumbered_answeredBy : unnumbered.AnsweredBy (fun name => .ok ⟨name⟩)
    fun request => .ok ⟨"a/M$0", "make", request.invokedType⟩ where
  load _ _ := rfl
  reify _ _ := rfl

end PrivateBody

/-- The calls of the two classes take turns, and either class starts over the numbering that the
other uses too. -/
theorem lowerClasses_schedules_interleaved :
    PrivateBody.unnumbered.AnsweredBy (fun name => .ok ⟨name⟩)
      (fun request => .ok ⟨"a/M$0", "make", request.invokedType⟩) ∧
    (∀ schedule outcome,
      Pool.Ended ((Pool.ofBatch {} PrivateBody.unnumbered [PrivateBody.twice, PrivateBody.file]
        {}).after PrivateBody.unnumbered schedule).tasks outcome →
      outcome = .ok [PrivateBody.loweredTwice, PrivateBody.lowered]) ∧
    ((Pool.ofBatch {} PrivateBody.unnumbered [PrivateBody.twice, PrivateBody.file] {}).after
      PrivateBody.unnumbered [0, 0, 0, 0, 0, 1, 1, 1, 0, 0, 1, 1, 0, 0, 0, 1, 1, 0]).tasks =
        [.done PrivateBody.loweredTwice, .done PrivateBody.lowered] := by
  have sequential : ∃ last, lowerClasses .deterministic PrivateBody.unnumbered
      [PrivateBody.twice, PrivateBody.file] {} =
        .ok [PrivateBody.loweredTwice, PrivateBody.lowered] last := by
    have first : Action.answerOf (lowerClass .deterministic PrivateBody.unnumbered
        PrivateBody.twice {}) = .ok PrivateBody.loweredTwice := by
      rw [lowerClass_eq_lowerDirectly]
      rfl
    have second : Action.answerOf (lowerClass .deterministic PrivateBody.unnumbered
        PrivateBody.file {}) = .ok PrivateBody.lowered := by
      rw [lowerClass_eq_lowerDirectly]
      rfl
    have answers := fun file state =>
      PrivateBody.unnumbered_answeredBy.answerOf_lowerClass .deterministic file state {}
    rw [lowerClasses_eq_ok_iff answers]
    simp only [List.map_cons, List.map_nil, first, second]
  have schedules := lowerClasses_schedules PrivateBody.unnumbered_answeredBy {}
    [PrivateBody.twice, PrivateBody.file] {} {} {}
  refine ⟨PrivateBody.unnumbered_answeredBy, ?_, rfl⟩
  intro schedule outcome ended
  exact (schedules.1 schedule outcome ended _).mpr sequential

end LambdaLowering
