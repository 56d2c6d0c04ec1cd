import LambdaLowering.Proofs.LoweringSteps

/-! Two runs that agree.

Runs agree if both succeed with values and states that are related as one asks, or if both fail for
the same reason. Agreement is carried through a program one action after the other, so two programs
are compared by comparing what they are made of.
-/

set_option autoImplicit false

namespace LambdaLowering

variable {S T α β γ δ : Type}

/-- Two outcomes agree. Of failures only the states are related, since the reason is the same. -/
inductive Agree (values : α → S → β → T → Prop) (states : S → T → Prop) :
    EStateM.Result Error S α → EStateM.Result Error T β → Prop
  | ok {value : α} {state : S} {other : β} {beside : T}
    (related : values value state other beside) :
    Agree values states (.ok value state) (.ok other beside)
  | error {error : Error} {state : S} {beside : T} (related : states state beside) :
    Agree values states (.error error state) (.error error beside)

def Alike (states : S → T → Prop) (value : α) (state : S) (other : α) (beside : T) : Prop :=
  value = other ∧ states state beside

/-- The state on the left is the image of what the right has come to. The value on the left says
nothing. -/
def Mirrored (image : β → T → S) (_ : α) (state : S) (other : β) (beside : T) : Prop :=
  state = image other beside

namespace Agree

variable {values : α → S → β → T → Prop} {states : S → T → Prop}

theorem mono_states {states' : S → T → Prop} {left : EStateM.Result Error S α}
    {right : EStateM.Result Error T β} (agree : Agree values states left right)
    (weaker : ∀ state beside, states state beside → states' state beside) :
    Agree values states' left right := by
  cases agree with
  | ok related => exact .ok related
  | error related => exact .error (weaker _ _ related)

theorem bind {middle : γ → S → δ → T → Prop}
    {left : Action S γ} {leftRest : γ → Action S α} {state : S}
    {right : Action T δ} {rightRest : δ → Action T β} {beside : T}
    (firsts : Agree middle states (left state) (right beside))
    (rests : ∀ value state other beside, middle value state other beside →
      Agree values states (leftRest value state) (rightRest other beside)) :
    Agree values states ((left >>= leftRest) state) ((right >>= rightRest) beside) := by
  rw [Action.bind_apply, Action.bind_apply]
  -- The outcomes become variables, so that the agreement can be taken apart.
  generalize left state = reached at firsts
  generalize right beside = reached' at firsts
  cases firsts with
  | ok related => exact rests _ _ _ _ related
  | error related => exact .error related

theorem bind_alike {left : Action S γ} {leftRest : γ → Action S α} {state : S}
    {right : Action T γ} {rightRest : γ → Action T β} {beside : T}
    (firsts : Agree (Alike states) states (left state) (right beside))
    (rests : ∀ value state beside, states state beside →
      Agree values states (leftRest value state) (rightRest value beside)) :
    Agree values states ((left >>= leftRest) state) ((right >>= rightRest) beside) := by
  apply firsts.bind
  intro value state other beside alike
  obtain ⟨same, related⟩ := alike
  rw [same]
  exact rests other state beside related

theorem bind_mirrored {image : δ → T → S} {left : Action S γ} {leftRest : γ → Action S α}
    {state : S} {right : Action T δ} {rightRest : δ → Action T β} {beside : T}
    (firsts : Agree (Mirrored image) states (left state) (right beside))
    (rests : ∀ value other beside,
      Agree values states (leftRest value (image other beside)) (rightRest other beside)) :
    Agree values states ((left >>= leftRest) state) ((right >>= rightRest) beside) := by
  apply firsts.bind
  intro value state other beside mirrored
  rw [mirrored]
  exact rests value other beside

theorem map_mirrored {image : δ → T → S} {image' : β → T → S} {finish : δ → β}
    {left : EStateM.Result Error S α} {right : Action T δ} {beside : T}
    (agree : Agree (Mirrored image) states left (right beside))
    (same : image = fun other beside => image' (finish other) beside) :
    Agree (Mirrored image') states left ((right >>= fun other => pure (finish other)) beside) := by
  subst same
  rw [Action.bind_apply]
  generalize right beside = reached at agree
  cases agree with
  | ok related => exact .ok related
  | error related => exact .error related

theorem ok_of_right {left : EStateM.Result Error S α} {other : β} {beside : T}
    (agree : Agree values states left (.ok other beside)) :
    ∃ value state, left = .ok value state ∧ values value state other beside := by
  cases agree with
  | ok related => exact ⟨_, _, rfl, related⟩

theorem refl (outcome : EStateM.Result Error S α) : Agree (Alike Eq) Eq outcome outcome := by
  cases outcome with
  | ok value state => exact .ok ⟨rfl, rfl⟩
  | error error state => exact .error rfl

theorem eq {left right : EStateM.Result Error S α} (agree : Agree (Alike Eq) Eq left right) :
    left = right := by
  cases agree with
  | ok related => rw [related.1, related.2]
  | error related => rw [related]

theorem ofExcept (outcome : Except Error α) {state : S} {beside : T}
    (related : states state beside) :
    Agree (Alike states) states (Action.ofExcept outcome state)
      (Action.ofExcept outcome beside) := by
  cases outcome with
  | ok value => exact .ok ⟨rfl, related⟩
  | error error => exact .error related

theorem of_onState {change : T → S} {outcome : EStateM.Result Error T α}
    (changed : ∀ beside, states (change beside) beside) :
    Agree (Alike states) states (Action.onState change outcome) outcome := by
  cases outcome with
  | ok value beside => exact .ok ⟨rfl, changed beside⟩
  | error error beside => exact .error (changed beside)

theorem onState_left {U : Type} {left : EStateM.Result Error S α}
    {right : EStateM.Result Error T β} (change : S → U) (agree : Agree values states left right) :
    Agree (fun value state other beside => ∃ inner, state = change inner ∧
        values value inner other beside)
      (fun state beside => ∃ inner, state = change inner ∧ states inner beside)
      (Action.onState change left) right := by
  cases agree with
  | ok related => exact .ok ⟨_, rfl, related⟩
  | error related => exact .error ⟨_, rfl, related⟩

theorem onState_eq {values : Unit → S → Unit → T → Prop} {image : S → T}
    {left : EStateM.Result Error S Unit} {right : EStateM.Result Error T Unit}
    (agree : Agree values states left right)
    (reached : ∀ value state other beside, values value state other beside → image state = beside)
    (failed : ∀ state beside, states state beside → image state = beside) :
    Action.onState image left = right := by
  cases agree with
  | ok related => rw [Action.onState_ok, reached _ _ _ _ related]
  | error related => rw [Action.onState_error, failed _ _ related]

end Agree

inductive Beside {U : Type} (states : S → T → Prop) : U × S → U × T → Prop
  | mk {outer : U} {state : S} {beside : T} (related : states state beside) :
    Beside states (outer, state) (outer, beside)

theorem Agree.onSnd {states : S → T → Prop} {left : Action S α} {right : Action T α} {state : S}
    {beside : T} {U : Type} (outer : U)
    (agree : Agree (Alike states) states (left state) (right beside)) :
    Agree (Alike (Beside states)) (Beside states) (left.onSnd (outer, state))
      (right.onSnd (outer, beside)) := by
  rw [Action.onSnd_apply, Action.onSnd_apply]
  generalize left state = reached at agree
  generalize right beside = reached' at agree
  cases agree with
  | ok related => exact .ok ⟨related.1, ⟨related.2⟩⟩
  | error related => exact .error ⟨related⟩

theorem Agree.bind_beside {states : S → T → Prop} {U : Type} {values : α → U × S → β → U × T → Prop}
    {left : Action (U × S) γ} {leftRest : γ → Action (U × S) α} {state : U × S}
    {right : Action (U × T) γ} {rightRest : γ → Action (U × T) β} {beside : U × T}
    (firsts : Agree (Alike (Beside states)) (Beside states) (left state) (right beside))
    (rests : ∀ value outer state beside, states state beside →
      Agree values (Beside states) (leftRest value (outer, state))
        (rightRest value (outer, beside))) :
    Agree values (Beside states) ((left >>= leftRest) state) ((right >>= rightRest) beside) := by
  apply firsts.bind_alike
  intro value state beside related
  cases related with
  | mk related => exact rests value _ _ _ related

/-- A state of one's own is seen from outside as a part of the answer, and not at all in a
failure. -/
theorem Agree.withOwn {U : Type} {values : α → U × S → β → T → Prop} {states : U × S → T → Prop}
    {left : Action (U × S) α} {first : U} {state : S} {right : EStateM.Result Error T β}
    (agree : Agree values states (left (first, state)) right) :
    Agree (fun answer state other beside => values answer.1 (answer.2, state) other beside)
      (fun state beside => ∃ own, states (own, state) beside)
      (left.withOwn first state) right := by
  unfold Action.withOwn
  generalize left (first, state) = reached at agree
  cases agree with
  | ok related => exact .ok related
  | error related => exact .error ⟨_, related⟩

theorem Agree.withOwn_right {U : Type} {values : α → S → β → U × T → Prop}
    {states : S → U × T → Prop} {left : EStateM.Result Error S α} {right : Action (U × T) β}
    {first : U} {beside : T} (agree : Agree values states left (right (first, beside))) :
    Agree (fun value state answer beside => values value state answer.1 (answer.2, beside))
      (fun state beside => ∃ own, states state (own, beside))
      left (right.withOwn first beside) := by
  unfold Action.withOwn
  generalize right (first, beside) = reached at agree
  cases agree with
  | ok related => exact .ok related
  | error related => exact .error ⟨_, related⟩

/-! ## Collaborators -/

/-- Collaborators that answer alike as long as their states are related. What they know of the
declared methods may differ. -/
structure Services.Simulate (states : S → T → Prop) (first : Services S) (second : Services T) :
    Prop where
  load : ∀ name state beside, states state beside →
    Agree (Alike states) states (first.load name state) (second.load name beside)
  reify : ∀ request state beside, states state beside →
    Agree (Alike states) states (first.reify request state) (second.reify request beside)
  restart : ∀ state beside, states state beside →
    Agree (Alike states) states (first.restartNumbering state) (second.restartNumbering beside)
  log : ∀ entry state beside, states state beside →
    states (first.log entry state) (second.log entry beside)

namespace Services.Simulate

variable {states : S → T → Prop} {first : Services S} {second : Services T}

theorem restarted (simulate : Simulate states first second) {state : S} {beside : T}
    (related : states state beside) :
    states (first.restarted state) (second.restarted beside) := by
  have agree := simulate.restart state beside related
  unfold Services.restarted
  generalize first.restartNumbering state = reached at agree
  generalize second.restartNumbering beside = reached' at agree
  cases agree with
  | ok related => exact related.2
  | error related => exact simulate.log _ _ _ related

theorem startState (simulate : Simulate states first second) (config : Config) {state : S}
    {beside : T} (related : states state beside) :
    states (config.startState first state) (config.startState second beside) := by
  unfold Config.startState
  split
  · exact simulate.restarted related
  · exact related

theorem report (simulate : Simulate states first second) (entry : LogRecord) {state : S}
    {beside : T} (related : states state beside) :
    Agree (Alike states) states (first.report entry state) (second.report entry beside) :=
  .ok ⟨rfl, simulate.log entry state beside related⟩

theorem resolve (simulate : Simulate states first second) {host : HostClass} {target : MethodRef}
    (same : host.reaches first.declared target = host.reaches second.declared target)
    (pending : PendingAccessors) {state : S} {beside : T} (related : states state beside) :
    Agree (Alike (Beside states)) (Beside states) (first.resolve host target (pending, state))
      (second.resolve host target (pending, beside)) := by
  -- What is declared is looked up for one purpose only, to see whether the target can be reached.
  have next : pending.next? first.declared host target =
      pending.next? second.declared host target := by
    unfold PendingAccessors.next?
    rw [same]
  simp only [Services.resolve, next]
  rcases pending.next? second.declared host target with error | _ | accessor
  · exact .error ⟨related⟩
  · exact .ok ⟨rfl, ⟨related⟩⟩
  · exact .ok ⟨rfl, ⟨simulate.log _ _ _ related⟩⟩

theorem factoryFor (simulate : Simulate states first second) {host : HostClass} {site : CallSite}
    (same : ∀ target ∈ site.implementation?,
      host.reaches first.declared target = host.reaches second.declared target)
    (pending : PendingAccessors) {state : S} {beside : T} (related : states state beside) :
    Agree (Alike (Beside states)) (Beside states) (first.factoryFor host site (pending, state))
      (second.factoryFor host site (pending, beside)) := by
  apply ((simulate.load host.name state beside related).onSnd pending).bind_beside
  intro invoker pending state beside related
  cases named : site.implementation? with
  | none => exact .error ⟨related⟩
  | some target =>
    apply (simulate.resolve (same target named) pending related).bind_beside
    intro callee pending state beside related
    apply ((simulate.reify _ state beside related).onSnd pending).bind_beside
    intro factory pending state beside related
    apply ((simulate.report _ related).onSnd pending).bind_beside
    intro _ pending state beside related
    exact .ok ⟨rfl, ⟨related⟩⟩

end Services.Simulate

theorem Action.onSnd_agree {U : Type} (action : Action S α) (outer : U) (state : S) :
    Agree (Alike fun state beside => state = (outer, beside))
      (fun state beside => state = (outer, beside))
      (action.onSnd (outer, state)) (action state) := by
  rw [onSnd_apply]
  exact .of_onState fun _ => rfl

theorem Services.onSnd_simulate {U : Type} (services : Services S) (outer : U) :
    Simulate (fun state beside => state = (outer, beside)) services.onSnd services where
  load := by
    intro name _ state same
    subst same
    exact (services.load name).onSnd_agree outer state
  reify := by
    intro request _ state same
    subst same
    exact (services.reify request).onSnd_agree outer state
  restart := by
    intro _ state same
    subst same
    exact services.restartNumbering.onSnd_agree outer state
  log := by
    intro entry _ state same
    subst same
    rfl

theorem Config.startState_onSnd {U : Type} (config : Config) (services : Services S) (outer : U)
    (state : S) :
    config.startState services.onSnd (outer, state) = (outer, config.startState services state) :=
  (services.onSnd_simulate outer).startState config rfl

end LambdaLowering
