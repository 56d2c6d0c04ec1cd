import LambdaLowering.FloatingPoint
import LambdaLowering.MethodHandle

/-! Constants: static arguments of bootstrap methods, and operands of constant loads.

Floating-point constants are kept as their words, so that equality of constants is equality of bits
and every NaN stays the one it is. Equality of the numbers is a test of its own.
-/

set_option autoImplicit false

namespace LambdaLowering

inductive Constant where
  | int (value : Int32)
  | long (value : Int64)
  | float (word : UInt32)
  | double (word : UInt64)
  | string (value : String)
  | classRef (name : String)
  | methodType (descriptor : MethodDescriptor)
  | handle (method : MethodRef)
  deriving DecidableEq, Repr

namespace Constant

def handle? : Constant → Option MethodRef
  | .handle method => some method
  | _ => none

/-- Equality, with floating-point constants compared as numbers. -/
def sameValue : Constant → Constant → Bool
  | .float a, .float b =>
    (FloatingPoint.decode .single a.toNat).sameNumber (.decode .single b.toNat)
  | .double a, .double b =>
    (FloatingPoint.decode .double a.toNat).sameNumber (.decode .double b.toNat)
  | a, b => a == b

end Constant

end LambdaLowering
