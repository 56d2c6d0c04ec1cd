import LambdaLowering.Catalog
import LambdaLowering.HostClass

/-! Whether the class generated for a lambda can call the method that holds the lambda's body.

The generated class is a neighbour of the host class in the same package. It reaches no private
method of the host, and no protected method that the host inherits from another package.
-/

set_option autoImplicit false

namespace LambdaLowering

namespace HostClass

/-- A method of the host itself. Bodies of lambdas in an interface are moved to a companion class
and can be called there; of a class every method must be known. -/
def reachesOwn (host : HostClass) (declared : Declarations) (method : MethodRef) :
    Except Error Bool :=
  if host.isInterface then .ok true
  else
    match declared.find? host.name method.signature with
    | some found => .ok (!found.access.has .isPrivate)
    | none => .error (.notAnalyzed method)

/-- A method of another class. In the host's package every one can be called, since the body of a
lambda is never a private method of another class. Elsewhere all can but those known to be
protected. -/
def reachesForeign (host : HostClass) (declared : Declarations) (method : MethodRef) : Bool :=
  if ClassName.package method.owner == host.package then true
  else
    match declared.find? method.owner method.signature with
    | some found => !found.access.has .isProtected
    | none => true

def reaches (host : HostClass) (declared : Declarations) (method : MethodRef) :
    Except Error Bool :=
  if method.owner == host.name then host.reachesOwn declared method
  else .ok (host.reachesForeign declared method)

end HostClass

end LambdaLowering
