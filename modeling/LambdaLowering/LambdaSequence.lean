/-! The counter that numbers generated classes. It has 32 bits and starts over after the last. -/

set_option autoImplicit false

namespace LambdaLowering

structure LambdaSequence where
  current : UInt32 := 0
  deriving DecidableEq, Repr

namespace LambdaSequence

def next (sequence : LambdaSequence) : UInt32 × LambdaSequence :=
  (sequence.current, ⟨sequence.current + 1⟩)

def reset (_ : LambdaSequence) : LambdaSequence := {}

end LambdaSequence

end LambdaLowering
