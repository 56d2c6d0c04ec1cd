import LambdaLowering.Proofs.DistinctMethods
import Mathlib.Data.List.DropRight

/-! The table of pending accessors through any run of its calls.

The table is asked for callees, by any hosts and with any knowledge of what is declared, and is
emptied from time to time. A call that fails changes nothing, and the run goes on. Numbers are the
places in the table, so they count what was planned since it was last emptied.
-/

set_option autoImplicit false

namespace LambdaLowering

variable {S : Type}

/-- A call of the table. The collaborators may be others in every call. -/
inductive TableCall (S : Type) where
  | resolve (services : Services S) (host : HostClass) (target : MethodRef)
  | take

namespace TableCall

def isResolve : TableCall S → Bool
  | .resolve _ _ _ => true
  | .take => false

def after (state : PendingAccessors × S) : TableCall S → PendingAccessors × S
  | .resolve services host target => Action.stateAfter (services.resolve host target state)
  | .take => (state.1.take.2, state.2)

def afterAll (state : PendingAccessors × S) (calls : List (TableCall S)) : PendingAccessors × S :=
  calls.foldl after state

def demand? : TableCall S → Option (HostClass × MethodRef)
  | .resolve services host target =>
    if host.needsAccessor services.declared target then some (host, target) else none
  | .take => none

/-- What accessors were needed for since the table was last emptied, in order. -/
def demands (calls : List (TableCall S)) : List (HostClass × MethodRef) :=
  (calls.rtakeWhile isResolve).filterMap demand?

def planned (number : Nat) (demand : HostClass × MethodRef) : Accessor :=
  .numbered number demand.1 demand.2

variable {calls : List (TableCall S)} {state : PendingAccessors × S}

/-- The step lemma. A call adds the accessor that it needs, if it needs one. -/
theorem entries_after_resolve (services : Services S) (host : HostClass) (target : MethodRef) :
    (after state (.resolve services host target)).1.entries = state.1.entries ++
      (demand? (.resolve services host target)).toList.map (planned state.1.entries.length) := by
  obtain ⟨pending, inner⟩ := state
  rw [after, services.resolve_apply, demand?, HostClass.needsAccessor]
  rcases host.reaches services.declared target with error | _ | _
  · simp [Action.stateAfter]
  · rfl
  · simp [Action.stateAfter]

theorem afterAll_concat (state : PendingAccessors × S) (calls : List (TableCall S))
    (call : TableCall S) :
    afterAll state (calls ++ [call]) = after (afterAll state calls) call := List.foldl_append

theorem demands_concat_resolve (calls : List (TableCall S)) (services : Services S)
    (host : HostClass) (target : MethodRef) :
    demands (calls ++ [.resolve services host target]) =
      demands calls ++ (demand? (.resolve services host target)).toList := by
  have asks : (resolve services host target).isResolve = true := rfl
  rw [demands, List.rtakeWhile_concat, if_pos asks, List.filterMap_append, ← demands]
  cases needed : demand? (.resolve services host target) <;> simp [needed]

theorem demands_concat_take (calls : List (TableCall S)) : demands (calls ++ [.take]) = [] := by
  rw [demands, List.rtakeWhile_concat]
  rfl

/-- The run lemma, by induction on the last call. -/
theorem entries_afterAll (calls : List (TableCall S)) (state : S) :
    (afterAll (.empty, state) calls).1.entries = (demands calls).mapIdx planned := by
  induction calls using List.reverseRecOn with
  | nil => rfl
  | append_singleton calls call ih =>
    rw [afterAll_concat]
    cases call with
    | take =>
      rw [demands_concat_take]
      rfl
    | resolve services host target =>
      -- The table is as long as the demands, so the next accessor has the number of its place.
      rw [entries_after_resolve, demands_concat_resolve, ih, List.length_mapIdx]
      cases demand? (.resolve services host target) with
      | none => simp
      | some demand => simp

end TableCall

/-- After any run of calls the table holds what was asked for since it was last emptied and could
not be called: each is a static method of its host, numbered by its place and described for its
target, and no two share a name. The next call plans one accessor and returns it, or returns the
target and plans none, or fails and plans none. To empty the table gives all of it, oldest first,
and leaves nothing, so the numbers start over. -/
theorem pendingAccessors_afterAll (calls : List (TableCall S)) (state : S) :
    let reached := TableCall.afterAll (.empty, state) calls
    reached.1.entries = (TableCall.demands calls).mapIdx (fun number (host, target) => {
      method := {
        kind := .static
        owner := host.name
        name := "access$lambda$" ++ toString number
        descriptor := Accessor.descriptorFor host target }
      target := target }) ∧
    (reached.1.entries.map (·.method.name)).Nodup ∧
    (∀ (services : Services S) (host : HostClass) (target : MethodRef),
      services.resolve host target reached =
        match host.reaches services.declared target with
        | .error error => .error error reached
        | .ok true => .ok target reached
        | .ok false =>
          let accessor := Accessor.numbered reached.1.entries.length host target
          .ok accessor.method (⟨reached.1.entries ++ [accessor]⟩,
            services.log (.accessorPlanned accessor) reached.2)) ∧
    reached.1.take = ((TableCall.demands calls).mapIdx TableCall.planned, .empty) ∧
    (TableCall.afterAll (.empty, state) (calls ++ [.take])).1 = .empty := by
  intro reached
  have entries := TableCall.entries_afterAll calls state
  refine ⟨entries, ?_, ?_, ?_, ?_⟩
  · rw [entries]
    exact Accessor.nodup_name_mapIdx (fun _ _ => rfl) _
  · intro services host target
    exact services.resolve_apply host target reached.1 reached.2
  · rw [← entries]
    rfl
  · rw [TableCall.afterAll_concat]
    rfl

/-- Two accessors for one method have different names, and the numbers start over when the table is
emptied. -/
example :
    let ask : TableCall Unit := .resolve PrivateBody.services (.ofHeader PrivateBody.file.header)
      ⟨.static, "a/M", "body", ⟨[], .void⟩⟩
    let names (calls : List (TableCall Unit)) : List String :=
      (TableCall.afterAll (.empty, ()) calls).1.entries.map (·.method.name)
    names [ask, ask] = ["access$lambda$0", "access$lambda$1"] ∧
      names [ask, ask, .take, ask] = ["access$lambda$0"] := by
  constructor <;> rfl

end LambdaLowering
