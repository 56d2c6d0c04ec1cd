import LambdaLowering.HostClass

/-! Accessors: static methods of the host that stand in for methods that a generated class cannot
call. An accessor passes its arguments on to its target and returns what the target returns. -/

set_option autoImplicit false

namespace LambdaLowering

structure Accessor where
  method : MethodRef
  target : MethodRef
  deriving DecidableEq, Repr

namespace Accessor

def nameStem : String := "access$lambda$"

def nameFor (number : Nat) : String := nameStem ++ toString number

/-- An accessor takes what the call of its target takes: the receiver of an instance method comes
first. The object that a constructor makes is returned. -/
def descriptorFor (host : HostClass) (target : MethodRef) : MethodDescriptor :=
  match target.kind with
  | .static => target.descriptor
  | .constructor => target.descriptor.returning (.object target.owner)
  | .virtual | .special | .interface => target.descriptor.withLeading (.object host.name)

def numbered (number : Nat) (host : HostClass) (target : MethodRef) : Accessor where
  method := ⟨.static, host.name, nameFor number, descriptorFor host target⟩
  target := target

/-- Loads of parameters that lie in consecutive local slots. The last slot has a number of sixteen
bits if the parameters take at most 65535 slots, as they do in any class file. -/
def loads : Nat → List FieldType → List Instruction
  | _, [] => []
  | slot, type :: rest => .localVar type.loadOpcode slot :: loads (slot + type.slots) rest

def allocation (target : MethodRef) : List Instruction :=
  if target.kind = .constructor then [.onType .newObject target.owner, .simple .dup] else []

def body (accessor : Accessor) : List Instruction :=
  allocation accessor.target ++ loads 0 accessor.method.descriptor.params ++
    [.call accessor.target, .simple accessor.method.descriptor.result.returnOpcode]

def declaration (accessor : Accessor) (access : AccessFlags) : Method where
  header := .plain access accessor.method.name accessor.method.descriptor
  code := accessor.body

def hostAccess : AccessFlags := .ofFlags [.isStatic, .isSynthetic]

end Accessor

end LambdaLowering
