/-! Settings of the lowering. -/

set_option autoImplicit false

namespace LambdaLowering

def lambdaMetafactory : String := "java/lang/invoke/LambdaMetafactory"

structure Config where
  metafactory : String := lambdaMetafactory
  restartNumbering : Bool := true
  parallel : Bool := true
  deriving DecidableEq, Repr

/-- One class after the other, so that numbers come out the same in every run. -/
def Config.deterministic : Config := { parallel := false }

end LambdaLowering
