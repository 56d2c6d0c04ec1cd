import LambdaLowering.Sink

/-! Actions run on explicit states. -/

set_option autoImplicit false

namespace LambdaLowering

namespace Action

variable {S T α β : Type}

def onState (change : S → T) : EStateM.Result Error S α → EStateM.Result Error T α
  | .ok value state => .ok value (change state)
  | .error error state => .error error (change state)

@[simp] theorem onState_ok (change : S → T) (value : α) (state : S) :
    onState change (.ok value state : EStateM.Result Error S α) = .ok value (change state) := rfl

@[simp] theorem onState_error (change : S → T) (error : Error) (state : S) :
    onState change (.error error state : EStateM.Result Error S α) = .error error (change state) :=
  rfl

theorem onState_eq_ok {change : S → T} {outcome : EStateM.Result Error S α} {value : α} {last : T} :
    onState change outcome = .ok value last ↔
      ∃ state, outcome = .ok value state ∧ change state = last := by
  cases outcome <;> simp [and_assoc]

theorem onState_eq_error {change : S → T} {outcome : EStateM.Result Error S α} {error : Error}
    {last : T} :
    onState change outcome = .error error last ↔
      ∃ state, outcome = .error error state ∧ change state = last := by
  cases outcome <;> simp [and_assoc]

def stateAfter : EStateM.Result Error S α → S
  | .ok _ state | .error _ state => state

@[simp] theorem stateAfter_onState (change : S → T) (outcome : EStateM.Result Error S α) :
    stateAfter (onState change outcome) = change (stateAfter outcome) := by
  cases outcome <;> rfl

def answerOf : EStateM.Result Error S α → Except Error α
  | .ok value _ => .ok value
  | .error error _ => .error error

theorem answerOf_eq_ok {outcome : EStateM.Result Error S α} {value : α} :
    answerOf outcome = .ok value ↔ ∃ last, outcome = .ok value last := by
  cases outcome <;> simp [answerOf]

theorem onSnd_apply (action : Action S α) (outer : T) (inner : S) :
    action.onSnd (outer, inner) = onState (outer, ·) (action inner) := by
  simp only [onSnd]
  cases action inner <;> rfl

@[simp] theorem pure_apply (value : α) (state : S) :
    (pure value : Action S α) state = .ok value state := rfl

@[simp] theorem modify_apply (change : S → S) (state : S) :
    (modify change : Action S PUnit) state = .ok ⟨⟩ (change state) := rfl

theorem bind_apply (first : Action S α) (next : α → Action S β) (state : S) :
    (first >>= next) state =
      match first state with
      | .ok value state => next value state
      | .error error state => .error error state := by
  change EStateM.bind first next state = _
  unfold EStateM.bind
  cases first state <;> rfl

theorem bind_of_ok {first : Action S α} {value : α} {state after : S}
    (ran : first state = .ok value after) (next : α → Action S β) :
    (first >>= next) state = next value after := by
  rw [bind_apply, ran]

theorem ofExcept_bind (first : Except Error α) (next : α → Except Error β) :
    (ofExcept (first >>= next) : Action S β) =
      ofExcept first >>= fun value => ofExcept (next value) := by
  cases first <;> rfl

@[simp] theorem forM_nil (pass : α → Action S Unit) : ([] : List α).forM pass = pure () := rfl

theorem forM_cons (pass : α → Action S Unit) (value : α) (values : List α) :
    (value :: values).forM pass = pass value >>= fun _ => values.forM pass := rfl

theorem forM_append (pass : α → Action S Unit) (first second : List α) :
    (first ++ second).forM pass = first.forM pass >>= fun _ => second.forM pass := by
  induction first with
  | nil => rfl
  | cons value first ih => rw [List.cons_append, forM_cons, forM_cons, ih, bind_assoc]

theorem bind_eq_ok {first : Action S α} {next : α → Action S β} {state last : S} {value : β} :
    (first >>= next) state = .ok value last ↔
      ∃ middle after, first state = .ok middle after ∧ next middle after = .ok value last := by
  rw [bind_apply]
  constructor
  · intro ran
    cases ran' : first state with
    | ok middle after => exact ⟨middle, after, rfl, by simpa [ran'] using ran⟩
    | error error after => simp [ran'] at ran
  · intro both
    obtain ⟨middle, after, ran, rest⟩ := both
    simp [ran, rest]

theorem bind_eq_error {first : Action S α} {next : α → Action S β} {state last : S}
    {error : Error} :
    (first >>= next) state = .error error last ↔
      first state = .error error last ∨
        ∃ middle after, first state = .ok middle after ∧ next middle after = .error error last := by
  rw [bind_apply]
  cases first state <;> simp [and_assoc]

theorem ofExcept_eq_ok {outcome : Except Error α} {state last : S} {value : α} :
    (ofExcept outcome : Action S α) state = .ok value last ↔
      outcome = .ok value ∧ last = state := by
  cases outcome with
  | error error =>
    constructor
    · intro ran
      cases ran
    · intro same
      cases same.1
  | ok value =>
    constructor
    · intro ran
      cases ran
      exact ⟨rfl, rfl⟩
    · intro same
      rcases same with ⟨ran, rfl⟩
      cases ran
      rfl

theorem ofExcept_eq_error {outcome : Except Error α} {state last : S} {error : Error} :
    (ofExcept outcome : Action S α) state = .error error last ↔
      outcome = .error error ∧ last = state := by
  cases outcome with
  | error cause =>
    constructor
    · intro failed
      cases failed
      exact ⟨rfl, rfl⟩
    · intro same
      rcases same with ⟨failed, rfl⟩
      cases failed
      rfl
  | ok value =>
    constructor
    · intro failed
      cases failed
    · intro same
      cases same.1

theorem onSnd_eq_ok {action : Action S α} {outer outerLast : T} {state last : S} {value : α}
    (ran : action.onSnd (outer, state) = .ok value (outerLast, last)) :
    outerLast = outer ∧ action state = .ok value last := by
  rw [onSnd_apply] at ran
  obtain ⟨_, ran, same⟩ := onState_eq_ok.mp ran
  cases same
  exact ⟨rfl, ran⟩

theorem onSnd_eq_error {action : Action S α} {outer outerLast : T} {state last : S} {error : Error}
    (failed : action.onSnd (outer, state) = .error error (outerLast, last)) :
    outerLast = outer ∧ action state = .error error last := by
  rw [onSnd_apply] at failed
  obtain ⟨_, failed, same⟩ := onState_eq_error.mp failed
  cases same
  exact ⟨rfl, failed⟩

theorem withOwn_eq_ok {action : Action (T × S) α} {first own : T} {state last : S} {value : α} :
    action.withOwn first state = .ok (value, own) last ↔
      action (first, state) = .ok value (own, last) := by
  unfold withOwn
  cases action (first, state) with
  | ok answer reached => simp [Prod.ext_iff, and_assoc]
  | error error reached => simp

theorem withOwn_eq_error {action : Action (T × S) α} {first : T} {state last : S} {error : Error} :
    action.withOwn first state = .error error last ↔
      ∃ own, action (first, state) = .error error (own, last) := by
  unfold withOwn
  cases action (first, state) with
  | ok answer reached => simp
  | error cause reached => simp [Prod.ext_iff]

end Action

end LambdaLowering
