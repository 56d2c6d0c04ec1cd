import LambdaLowering.Proofs.Requests

/-! Why the lowering of a class fails.

All that can fail is a list of checks, which is read off the class and what is declared. A lowering
fails just if one of its checks does, and for the reason of the first that does. What the
collaborators answer is taken from the record.
-/

set_option autoImplicit false

namespace LambdaLowering

variable {S T α β : Type}

inductive Check where
  | free (taken : List MethodSignature) (signature : MethodSignature)
  | loads
  | names (site : CallSite)
  | analyzes (site : CallSite)
  | generates (site : CallSite)

namespace Check

/-- How a check ends, if it can end with the next answers on record, and what is left of them. -/
def settle (declared : Declarations) (host : HostClass) :
    Check → List Consultation → Option (Except Error Unit × List Consultation)
  | .free taken signature, record =>
    some (if signature ∈ taken then .error (.malformed (.duplicateMethod signature)) else .ok (),
      record)
  | .loads, .load name answer :: record =>
    if name = host.name then some (answer.map fun _ => (), record) else none
  | .names site, record =>
    match (site.arguments[1]? : Option Constant) with
    | some (.handle _) => some (.ok (), record)
    | _ => some (.error (.malformed (.missingImplementation site host.name)), record)
  | .analyzes site, record =>
    match (site.arguments[1]? : Option Constant) with
    | some (.handle target) =>
      some (if (host.reaches declared target).isOk then .ok () else .error (.notAnalyzed target),
        record)
    | _ => some (.ok (), record)
  | .generates site, .reify request answer :: record =>
    if request = site.request request.invoker request.implementation request.callee then
      some (answer.map fun _ => (), record)
    else none
  | _, _ => none

/-- Check after check, up to the first that fails. -/
def walk (declared : Declarations) (host : HostClass) :
    List Check → List Consultation → Option (Except Error Unit × List Consultation)
  | [], record => some (.ok (), record)
  | check :: checks, record =>
    match check.settle declared host record with
    | some (.ok (), record) => walk declared host checks record
    | stopped => stopped

variable {declared : Declarations} {host : HostClass}

theorem walk_singleton (check : Check) (record : List Consultation) :
    walk declared host [check] record = check.settle declared host record := by
  rw [walk]
  rcases check.settle declared host record with _ | ⟨_ | _, rest⟩ <;> rfl

theorem walk_append (first second : List Check) (record : List Consultation) :
    walk declared host (first ++ second) record =
      match walk declared host first record with
      | some (.ok (), record) => walk declared host second record
      | stopped => stopped := by
  induction first generalizing record with
  | nil => rfl
  | cons check first ih =>
    rw [List.cons_append, walk, walk]
    rcases check.settle declared host record with _ | ⟨_ | _, rest⟩
    · rfl
    · rfl
    · exact ih rest

theorem walk_eq_error_iff {checks : List Check} {record left : List Consultation} {error : Error} :
    walk declared host checks record = some (.error error, left) ↔
      ∃ passed check later rest, checks = passed ++ check :: later ∧
        walk declared host passed record = some (.ok (), rest) ∧
        check.settle declared host rest = some (.error error, left) := by
  constructor
  · intro failed
    induction checks generalizing record with
    | nil => cases failed
    | cons check checks ih =>
      rw [walk] at failed
      rcases settled : check.settle declared host record with _ | ⟨_ | _, rest⟩
      · simp [settled] at failed
      · rw [settled] at failed
        exact ⟨[], check, checks, record, rfl, rfl, settled.trans failed⟩
      · rw [settled] at failed
        obtain ⟨passed, first, later, before, rfl, walked, ended⟩ := ih failed
        refine ⟨check :: passed, first, later, before, rfl, ?_, ended⟩
        rw [walk, settled]
        exact walked
  · rintro ⟨passed, check, later, rest, rfl, walked, ended⟩
    rw [walk_append, walked]
    change walk declared host (check :: later) rest = _
    rw [walk, ended]

end Check

/-! ## The checks of a class -/

/-- What is checked at a lambda call site. -/
def CallSite.checks (site : CallSite) : List Check :=
  [.loads, .names site, .analyzes site, .generates site]

/-- What is checked of methods that stay, given the names and descriptors of those before them. -/
def methodChecks (metafactory : String) : List MethodSignature → List Method → List Check
  | _, [] => []
  | taken, method :: methods =>
    .free taken method.signature :: (method.lambdaSites metafactory).flatMap CallSite.checks ++
      methodChecks metafactory (taken ++ [method.signature]) methods

/-- What is checked of a class: its methods and their call sites in order, and at last the names of
the accessors that the sites need. The hook is not checked. -/
def ClassFile.checks (metafactory : String) (declared : Declarations) (file : ClassFile) :
    List Check :=
  let host := HostClass.ofHeader file.header
  methodChecks metafactory [] file.kept ++
    (CallSite.needing host declared (file.lambdaSites metafactory)).mapIdx fun number target =>
      .free (file.kept.map Method.signature)
        ⟨Accessor.nameFor number, Accessor.descriptorFor host target⟩

/-! ## Runs that walk through checks -/

def verdict : EStateM.Result Error T α → Except Error Unit
  | .ok _ _ => .ok ()
  | .error error _ => .error error

/-- What a run has written down since is what the checks ask, and it ends as they do. -/
def Walks (declared : Declarations) (host : HostClass) (recordOf : T → List Consultation)
    (checks : List Check) (before : T) (result : EStateM.Result Error T α) : Prop :=
  ∃ asked, recordOf (Action.stateAfter result) = recordOf before ++ asked ∧
    ∀ rest, Check.walk declared host checks (asked ++ rest) = some (verdict result, rest)

section Walks

variable {declared : Declarations} {host : HostClass} {recordOf : T → List Consultation}

namespace Walks

theorem silent {before after : T} {value : α} (same : recordOf after = recordOf before) :
    Walks declared host recordOf [] before (.ok value after : EStateM.Result Error T α) :=
  ⟨[], by simpa [Action.stateAfter] using same, fun _ => rfl⟩

theorem settled {before : T} {result : EStateM.Result Error T α} {check : Check}
    (same : recordOf (Action.stateAfter result) = recordOf before)
    (settles : ∀ rest, check.settle declared host rest = some (verdict result, rest)) :
    Walks declared host recordOf [check] before result :=
  ⟨[], by simpa using same, fun rest => (Check.walk_singleton _ _).trans (settles rest)⟩

theorem bind {first : Action T α} {next : α → Action T β} {checks later : List Check} {before : T}
    (firsts : Walks declared host recordOf checks before (first before))
    (rests : ∀ value after, first before = .ok value after →
      Walks declared host recordOf later after (next value after)) :
    Walks declared host recordOf (checks ++ later) before ((first >>= next) before) := by
  rw [Action.bind_apply]
  obtain ⟨asked, grown, walked⟩ := firsts
  cases ran : first before with
  | error error after =>
    rw [ran] at grown walked
    refine ⟨asked, grown, ?_⟩
    intro rest
    rw [Check.walk_append, walked]
    rfl
  | ok value after =>
    rw [ran] at grown walked
    obtain ⟨asked', grown', walked'⟩ := rests value after ran
    refine ⟨asked ++ asked', ?_, ?_⟩
    · rw [← List.append_assoc, ← show recordOf after = _ from grown]
      exact grown'
    · intro rest
      rw [Check.walk_append, List.append_assoc, walked]
      exact walked' rest

theorem bind_silent {first : Action T α} {next : α → Action T β} {checks : List Check} {before : T}
    (firsts : Walks declared host recordOf checks before (first before))
    (rests : ∀ value after, first before = .ok value after →
      Walks declared host recordOf [] after (next value after)) :
    Walks declared host recordOf checks before ((first >>= next) before) := by
  rw [← List.append_nil checks]
  exact firsts.bind rests

theorem recorded {U : Type} {entry : Except Error α → Consultation} {check : Check}
    (settles : ∀ answer rest, check.settle declared host (entry answer :: rest) =
      some (answer.map fun _ => (), rest))
    (action : Action S α) (before : U × List Consultation × S) :
    Walks declared host (·.2.1) [check] before ((action.recorded entry).onSnd before) := by
  obtain ⟨outer, record, state⟩ := before
  rw [Action.onSnd_apply, Action.recorded]
  cases action state with
  | ok value after => exact ⟨_, rfl, fun rest => (Check.walk_singleton _ _).trans (settles _ rest)⟩
  | error error after =>
    exact ⟨_, rfl, fun rest => (Check.walk_singleton _ _).trans (settles _ rest)⟩

theorem withOwn {U : Type} {action : Action (U × List Consultation × S) α} {own : U}
    {checks : List Check} {before : List Consultation × S}
    (walks : Walks declared host (·.2.1) checks (own, before) (action (own, before))) :
    Walks declared host Prod.fst checks before (action.withOwn own before) := by
  unfold Action.withOwn
  generalize action (own, before) = result at walks
  cases result with
  | ok value after => exact walks
  | error error after => exact walks

theorem ofExcept {before : T} {checks : List Check} {outcome : Except Error Unit}
    (walked : ∀ rest, Check.walk declared host checks rest = some (outcome, rest)) :
    Walks declared host recordOf checks before
      ((Action.ofExcept outcome : Action T Unit) before) := by
  cases outcome with
  | ok _ => exact ⟨[], (List.append_nil _).symm, walked⟩
  | error error => exact ⟨[], (List.append_nil _).symm, walked⟩

theorem passed {before : T} {result : EStateM.Result Error T α} {check : Check}
    {checks : List Check}
    (passes : ∀ rest, check.settle declared host rest = some (.ok (), rest))
    (walks : Walks declared host recordOf checks before result) :
    Walks declared host recordOf (check :: checks) before result := by
  obtain ⟨asked, grown, walked⟩ := walks
  refine ⟨asked, grown, ?_⟩
  intro rest
  rw [Check.walk, passes]
  exact walked rest

theorem failed {before : T} {error : Error} {check : Check} {later : List Check}
    (fails : ∀ rest, check.settle declared host rest = some (.error error, rest)) :
    Walks declared host recordOf (check :: later) before
      (.error error before : EStateM.Result Error T α) := by
  refine ⟨[], (List.append_nil _).symm, ?_⟩
  intro rest
  rw [Check.walk, List.nil_append, fails]
  rfl

end Walks

end Walks

/-! ## Call sites, methods and classes -/

theorem HostClass.reaches_eq_error_iff {host : HostClass} {declared : Declarations}
    {target : MethodRef} {error : Error} :
    host.reaches declared target = .error error ↔
      error = .notAnalyzed target ∧ target.owner = host.name ∧ host.isInterface = false ∧
        declared.find? host.name target.signature = none := by
  unfold reaches reachesOwn
  by_cases own : target.owner = host.name
  · rw [if_pos (beq_iff_eq.mpr own)]
    cases host.isInterface with
    | true => simp
    | false => cases declared.find? host.name target.signature <;> simp [own, eq_comm]
  · rw [if_neg (mt beq_iff_eq.mp own)]
    simp [own]

theorem HostClass.reaches_eq_error {host : HostClass} {declared : Declarations}
    {target : MethodRef} {error : Error} (unknown : host.reaches declared target = .error error) :
    error = .notAnalyzed target :=
  (reaches_eq_error_iff.mp unknown).1

section Lowering

variable {services : Services S} {metafactory : String} {host : HostClass}

theorem Services.resolve_walks {site : CallSite} {target : MethodRef}
    (named : site.arguments[1]? = some (.handle target))
    (before : PendingAccessors × List Consultation × S) :
    Walks services.declared host (·.2.1) [.analyzes site] before
      (services.recording.resolve host target before) := by
  obtain ⟨pending, record, state⟩ := before
  have settles : ∀ rest, Check.settle services.declared host (.analyzes site) rest =
      some (if (host.reaches services.declared target).isOk then .ok ()
        else .error (.notAnalyzed target), rest) := by
    intro rest
    simp only [Check.settle, named]
  have declared : services.recording.declared = services.declared := rfl
  rw [Services.resolve_apply, declared]
  rcases reaches : host.reaches services.declared target with error | _ | _
  · cases HostClass.reaches_eq_error reaches
    rw [reaches] at settles
    exact .settled rfl settles
  · rw [reaches] at settles
    exact .settled rfl settles
  · rw [reaches] at settles
    exact .settled rfl settles

theorem Services.factoryFor_walks (site : CallSite)
    (before : PendingAccessors × List Consultation × S) :
    Walks services.declared host (·.2.1) site.checks before
      (services.recording.factoryFor host site before) := by
  unfold Services.factoryFor
  have loads : Walks services.declared host (·.2.1) [.loads] before
      ((services.recording.load host.name).onSnd before) := by
    apply Walks.recorded
    intro answer rest
    exact if_pos rfl
  apply loads.bind
  intro invoker after _
  cases named : site.implementation? with
  | none =>
    apply Walks.failed
    intro rest
    have missing : ∀ target, site.arguments[1]? ≠ some (.handle target) := by
      intro target handle
      rw [CallSite.implementation?_eq_some_iff.mpr handle] at named
      cases named
    simp only [Check.settle]
  | some target =>
    have handle := CallSite.implementation?_eq_some_iff.mp named
    apply Walks.passed
    · intro rest
      simp only [Check.settle, handle]
    apply (Services.resolve_walks handle after).bind
    intro callee after _
    have reified : Walks services.declared host (·.2.1) [.generates site] after
        ((services.recording.reify (site.request invoker target callee)).onSnd after) := by
      apply Walks.recorded
      intro answer rest
      exact if_pos rfl
    apply reified.bind_silent
    intro factory after _
    exact .silent rfl

theorem lowerInstruction_walks (one : Instruction)
    (before : PendingAccessors × List Consultation × S) :
    Walks services.declared host (·.2.1)
      ((one.lambdaSite? metafactory).toList.flatMap CallSite.checks) before
      (lowerInstruction services.recording metafactory host one before) := by
  unfold lowerInstruction
  cases one.lambdaSite? metafactory with
  | none => exact .silent rfl
  | some site =>
    rw [Option.toList_some, List.flatMap_singleton]
    apply (Services.factoryFor_walks site before).bind_silent
    intro factory after _
    exact .silent rfl

theorem lowerCode_walks (code : List Instruction)
    (before : PendingAccessors × List Consultation × S) :
    Walks services.declared host (·.2.1)
      ((code.filterMap (·.lambdaSite? metafactory)).flatMap CallSite.checks) before
      (lowerCode services.recording metafactory host code before) := by
  induction code generalizing before with
  | nil => exact .silent rfl
  | cons one code ih =>
    have split : (one :: code).filterMap (·.lambdaSite? metafactory) =
        (one.lambdaSite? metafactory).toList ++ code.filterMap (·.lambdaSite? metafactory) := by
      cases found : one.lambdaSite? metafactory <;> simp [found]
    unfold lowerCode at ih ⊢
    rw [split, List.flatMap_append, List.mapM_cons]
    apply (lowerInstruction_walks one before).bind
    intro lowered after _
    apply (ih after).bind_silent
    intro rest after _
    exact .silent rfl

theorem lowerMethods_walks (taken : List MethodSignature) (methods : List Method)
    (before : PendingAccessors × List Consultation × S) :
    Walks services.declared host (·.2.1)
      (methodChecks metafactory taken (methods.filter (!·.header.isDeserializationHook))) before
      (lowerMethods services.recording metafactory host taken methods before) := by
  induction methods generalizing taken before with
  | nil => exact .silent rfl
  | cons method methods ih =>
    obtain ⟨pending, record, state⟩ := before
    unfold lowerMethods
    cases hook : method.header.isDeserializationHook with
    | true =>
      rw [Action.bind_of_ok (services.recording.keeps_hook hook pending (record, state)),
        List.filter_cons_of_neg (by simp [hook])]
      exact ih taken _
    | false =>
      rw [Action.bind_of_ok (services.recording.keeps_ordinary hook pending (record, state)),
        List.filter_cons_of_pos (by simp [hook])]
      have free : Walks services.declared host (·.2.1) [.free taken method.signature]
          (pending, record, state) ((Action.ofExcept (demandFree taken method.signature) :
            Action (PendingAccessors × List Consultation × S) Unit) (pending, record, state)) :=
        .ofExcept fun rest => Check.walk_singleton _ rest
      apply free.bind
      intro _ after _
      apply (lowerCode_walks method.code after).bind
      intro code after _
      apply (ih (taken ++ [method.signature]) after).bind_silent
      intro rest after _
      exact .silent rfl

theorem walk_free_eq {declared : Declarations} {taken more signatures : List MethodSignature}
    (distinct : signatures.Nodup) (apart : ∀ signature ∈ signatures, signature ∉ more)
    (record : List Consultation) :
    Check.walk declared host (signatures.map (.free taken)) record =
      some (demandAllFree (taken ++ more) signatures, record) := by
  induction signatures generalizing more with
  | nil => rfl
  | cons signature signatures ih =>
    obtain ⟨new, distinct⟩ := List.nodup_cons.mp distinct
    have free : signature ∈ taken ++ more ↔ signature ∈ taken := by
      simp [apart signature List.mem_cons_self]
    rw [List.map_cons, Check.walk, demandAllFree, demandFree]
    by_cases member : signature ∈ taken
    · simp only [Check.settle, if_pos member, if_pos (free.mpr member)]
      rfl
    · simp only [Check.settle, if_neg member, if_neg (mt free.mp member)]
      -- The name that was just taken is none of those that follow.
      have apart' : ∀ other ∈ signatures, other ∉ more ++ [signature] := by
        intro other later
        simp only [List.mem_append, List.mem_singleton, not_or]
        exact ⟨apart other (List.mem_cons_of_mem _ later), fun same => new (same ▸ later)⟩
      rw [ih distinct apart', ← List.append_assoc]
      rfl

theorem accessorNames_walk {declared : Declarations} {recordOf : T → List Consultation}
    (taken : List MethodSignature) (targets : List MethodRef) (before : T) :
    Walks declared host recordOf
      (targets.mapIdx fun number target =>
        .free taken ⟨Accessor.nameFor number, Accessor.descriptorFor host target⟩) before
      ((Action.ofExcept (demandAllFree taken
        (((PendingAccessors.plannedFor host targets).entries.map
          (·.declaration Accessor.hostAccess)).map Method.signature)) : Action T Unit) before) := by
  let accessors := (PendingAccessors.plannedFor host targets).entries
  have checks : (targets.mapIdx fun number target =>
      Check.free taken ⟨Accessor.nameFor number, Accessor.descriptorFor host target⟩) =
      (accessors.map (·.method.signature)).map (.free taken) := by
    simp only [accessors, PendingAccessors.plannedFor, List.mapIdx_eq_zipIdx_map, List.map_map]
    rfl
  have distinct := PendingAccessors.nodup_signature_plannedFor host targets
  have declarations : (accessors.map (·.declaration Accessor.hostAccess)).map Method.signature =
      accessors.map (·.method.signature) := List.map_map
  rw [checks, declarations]
  apply Walks.ofExcept
  intro rest
  have apart : ∀ signature ∈ accessors.map (·.method.signature),
      signature ∉ ([] : List MethodSignature) := fun _ _ => List.not_mem_nil
  have walked : Check.walk declared host _ rest = some (demandAllFree (taken ++ []) _, rest) :=
    walk_free_eq distinct apart rest
  rwa [List.append_nil] at walked

theorem lowerDirectly_walks (config : Config) (services : Services S) (file : ClassFile)
    (state : S) :
    Walks services.declared (.ofHeader file.header) Prod.fst
      (file.checks config.metafactory services.declared) ([], state)
      (lowerDirectly config services.recording file ([], state)) := by
  unfold lowerDirectly
  rw [Action.bind_of_ok (Action.modify_apply _ _), config.startState_recording]
  -- To start the numbering over is no question.
  change Walks _ _ _ _ ([], config.startState services state) _
  apply (lowerMethods_walks [] file.methods _).withOwn.bind
  rintro ⟨methods, pending⟩ after ran
  obtain ⟨_, _⟩ := after
  -- Which accessors there are is known only now that the methods have been lowered.
  obtain ⟨_, _, derived⟩ := MethodsLowered.of_lowerMethods (Action.withOwn_eq_ok.mp ran)
  have none : PendingAccessors.empty = .plannedFor (.ofHeader file.header) [] := rfl
  obtain rfl := derived.pending_eq none
  simp only [derived.map_signature]
  apply (accessorNames_walk _ _ _).bind_silent
  intro _ after _
  exact .silent rfl

end Lowering

/-- Hooks are not checked, so a class without its hooks is checked alike. -/
theorem ClassFile.checks_kept (metafactory : String) (declared : Declarations) (file : ClassFile) :
    ({ file with methods := file.kept } : ClassFile).checks metafactory declared =
      file.checks metafactory declared := by
  have again : ({ file with methods := file.kept } : ClassFile).kept = file.kept := by
    simp [kept]
  simp only [checks, lambdaSites, again]

theorem lowerClass_recording_eq (config : Config) (services : Services S) (file : ClassFile)
    (state : S) :
    ∃ record, lowerClass config services.recording file ([], state) =
      Action.onState (record, ·) (lowerClass config services file state) := by
  have agree := lowerClass_recording_agree config services file [] state
  generalize lowerClass config services.recording file ([], state) = noted at agree ⊢
  generalize lowerClass config services file state = plain at agree ⊢
  cases agree with
  | @ok _ reached _ _ related =>
    obtain ⟨rfl, rfl⟩ := related
    exact ⟨reached.1, rfl⟩
  | @error _ reached _ related =>
    cases related
    exact ⟨reached.1, rfl⟩

/-- A lowering succeeds just if all checks of the class do. It fails just if one of them does, and
then with the error of the first that does, and nobody is asked anything after that. Accessors are
written as `Accessor.declaration`, for which nobody is asked. -/
theorem lowerClass_error_iff_first_check (config : Config) (services : Services S)
    (file : ClassFile) (state : S) :
    let host := HostClass.ofHeader file.header
    let checks := file.checks config.metafactory services.declared
    let walk := Check.walk services.declared host
    ∃ record,
      lowerClass config services.recording file ([], state) =
        Action.onState (record, ·) (lowerClass config services file state) ∧
      ((∃ out last, lowerClass config services file state = .ok out last) ↔
        walk checks record = some (.ok (), [])) ∧
      (∀ error, (∃ last, lowerClass config services file state = .error error last) ↔
        ∃ passed check later rest, checks = passed ++ check :: later ∧
          walk passed record = some (.ok (), rest) ∧
          check.settle services.declared host rest = some (.error error, [])) ∧
      ({ file with methods := file.kept } : ClassFile).checks config.metafactory services.declared =
        checks := by
  intro host checks walk
  obtain ⟨record, recorded⟩ := lowerClass_recording_eq config services file state
  obtain ⟨asked, grown, walked⟩ := lowerDirectly_walks config services file state
  rw [← lowerClass_eq_lowerDirectly, recorded] at grown walked
  -- The record begins empty, so what was asked is all that is in it.
  have all : asked = record := by
    cases outcome : lowerClass config services file state <;>
      simpa [outcome, Action.stateAfter] using grown.symm
  have ended : walk checks record = some (verdict (lowerClass config services file state), []) := by
    have whole := walked []
    rw [all, List.append_nil] at whole
    cases outcome : lowerClass config services file state <;> rwa [outcome] at whole
  refine ⟨record, recorded, ?_, ?_, file.checks_kept _ _⟩
  · rw [ended]
    cases lowerClass config services file state <;> simp [verdict]
  · intro error
    rw [← Check.walk_eq_error_iff]
    change _ ↔ walk checks record = _
    rw [ended]
    cases lowerClass config services file state <;> simp [verdict]

end LambdaLowering
