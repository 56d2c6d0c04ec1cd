import LambdaLowering.ClassBuilder
import LambdaLowering.ClassLowering

/-! Lowering classes held in memory, one or many. -/

set_option autoImplicit false

namespace LambdaLowering

variable {S : Type}

/-- Lower one class with a builder behind the lowering. A class that fails leaves nothing behind but
what its collaborators did. -/
def lowerClass (config : Config) (services : Services S) (file : ClassFile) :
    Action S ClassFile := do
  let lowered := file.streamTo (ClassLowering.sink config services.onSnd ClassBuilder.sink)
  let (_, builder) ← Action.withOwn .initial (Action.withOwn {} lowered)
  Action.ofExcept builder.finish

def Action.attempt {α : Type} (action : Action S α) : Action S (Except Error α) := fun state =>
  match action state with
  | .ok value state => .ok (.ok value) state
  | .error error state => .ok (.error error) state

/-- Lower a list of classes and keep their order. One after the other, the first failure ends the
batch. In parallel no class waits for another, so all are lowered before the first failure in list
order is reported. -/
def lowerClasses (config : Config) (services : Services S) (files : List ClassFile) :
    Action S (List ClassFile) := do
  services.report (.batchStarted files.length config.parallel)
  if config.parallel then
    let outcomes ← files.mapM fun file => (lowerClass config services file).attempt
    outcomes.mapM Action.ofExcept
  else
    files.mapM (lowerClass config services)

end LambdaLowering
