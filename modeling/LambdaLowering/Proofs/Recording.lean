import LambdaLowering.Proofs.StreamedLowering

/-! Collaborators that write down what they were asked.

Writing down changes nothing for the lowering: it lowers a class alike, with the same effects on the
collaborators, whether or not they keep a record.
-/

set_option autoImplicit false

namespace LambdaLowering

variable {S α : Type}

inductive Consultation where
  | load (name : String) (answer : Except Error LoadedClass)
  | reify (request : LambdaRequest) (answer : Except Error Factory)

def Consultation.generated? : Consultation → Option (LambdaRequest × Factory)
  | .reify request (.ok factory) => some (request, factory)
  | _ => none

def generatedIn (record : List Consultation) : List (LambdaRequest × Factory) :=
  record.filterMap Consultation.generated?

@[simp] theorem generatedIn_append (first second : List Consultation) :
    generatedIn (first ++ second) = generatedIn first ++ generatedIn second :=
  List.filterMap_append

def Action.recorded (entry : Except Error α → Consultation) (action : Action S α) :
    Action (List Consultation × S) α := fun (record, state) =>
  match action state with
  | .ok value state => .ok value (record ++ [entry (.ok value)], state)
  | .error error state => .error error (record ++ [entry (.error error)], state)

/-- The same collaborators, with a record of what they were asked. -/
def Services.recording (services : Services S) : Services (List Consultation × S) where
  declared := services.declared
  load name := (services.load name).recorded (.load name)
  reify request := (services.reify request).recorded (.reify request)
  restartNumbering := services.restartNumbering.onSnd
  log entry := fun (record, state) => (record, services.log entry state)

theorem Action.recorded_agree (entry : Except Error α → Consultation) (action : Action S α)
    (record : List Consultation) (state : S) :
    Agree (Alike fun noted plain => noted.2 = plain) (fun noted plain => noted.2 = plain)
      (action.recorded entry (record, state)) (action state) := by
  simp only [Action.recorded]
  cases action state with
  | ok value state => exact .ok ⟨rfl, rfl⟩
  | error error state => exact .error rfl

theorem Action.recorded_eq_ok {entry : Except Error α → Consultation} {action : Action S α}
    {record recordLast : List Consultation} {state last : S} {value : α}
    (ran : action.recorded entry (record, state) = .ok value (recordLast, last)) :
    recordLast = record ++ [entry (.ok value)] := by
  simp only [recorded] at ran
  cases outcome : action state with
  | ok value after =>
    rw [outcome] at ran
    cases ran
    rfl
  | error error after =>
    rw [outcome] at ran
    cases ran

theorem Services.recording_simulate (services : Services S) :
    Simulate (fun noted plain => noted.2 = plain) services.recording services where
  load := by
    intro name noted state same
    subst same
    exact Action.recorded_agree _ _ noted.1 noted.2
  reify := by
    intro request noted state same
    subst same
    exact Action.recorded_agree _ _ noted.1 noted.2
  restart := by
    -- To start over is no question, so this is not written down.
    intro noted state same
    subst same
    change Agree _ _ (services.restartNumbering.onSnd (noted.1, noted.2)) _
    rw [Action.onSnd_apply]
    exact .of_onState fun _ => rfl
  log := by
    intro entry noted state same
    subst same
    rfl

theorem lowerClass_recording_agree (config : Config) (services : Services S) (file : ClassFile)
    (record : List Consultation) (state : S) :
    Agree (Alike fun noted plain => noted.2 = plain) (fun noted plain => noted.2 = plain)
      (lowerClass config services.recording file (record, state))
      (lowerClass config services file state) := by
  rw [lowerClass_eq_lowerDirectly, lowerClass_eq_lowerDirectly]
  exact services.recording_simulate.lowerDirectly config (fun _ _ _ _ => rfl) rfl

end LambdaLowering
