import LambdaLowering.ClassFile
import LambdaLowering.ClassName

/-! The class whose call sites are being lowered. -/

set_option autoImplicit false

namespace LambdaLowering

inductive ClassKind where
  | ordinary | interface
  deriving DecidableEq, Repr

def ClassKind.name : ClassKind → String
  | .ordinary => "class"
  | .interface => "interface"

/-- Whether the class is an interface is told by its flags: a host is only ever made from flags and
a name, so it has no kind of its own that could differ. -/
structure HostClass where
  access : AccessFlags
  name : String
  deriving DecidableEq, Repr

namespace HostClass

def ofHeader (header : ClassHeader) : HostClass := ⟨header.access, header.name⟩

def kind (host : HostClass) : ClassKind :=
  if host.access.has .isInterface then .interface else .ordinary

def isInterface (host : HostClass) : Bool := host.kind == .interface

def package (host : HostClass) : String := ClassName.package host.name

end HostClass

end LambdaLowering
