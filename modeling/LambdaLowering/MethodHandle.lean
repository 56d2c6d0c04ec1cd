import LambdaLowering.Descriptor

/-! References to methods: the signature, the owner, and how a handle invokes it. -/

set_option autoImplicit false

namespace LambdaLowering

structure MethodSignature where
  name : String
  descriptor : MethodDescriptor
  deriving DecidableEq, Repr

def MethodSignature.text (signature : MethodSignature) : String :=
  signature.name ++ signature.descriptor.text

inductive ReferenceKind where
  | static | constructor | virtual | special | interface
  deriving DecidableEq, Repr

/-- A tag byte that is no method handle: tags 1 to 4 are handles of fields, all others are unused.
-/
structure HandleTagError where
  tag : UInt8
  deriving DecidableEq, Repr

def HandleTagError.message (error : HandleTagError) : String :=
  let tag := error.tag.toNat
  if 1 ≤ tag ∧ tag ≤ 4 then s!"Field handle tag {tag} cannot reference a method"
  else s!"Unknown method handle tag {tag}"

namespace ReferenceKind

def all : List ReferenceKind := [.virtual, .static, .special, .constructor, .interface]

def tag : ReferenceKind → UInt8
  | .virtual => 5
  | .static => 6
  | .special => 7
  | .constructor => 8
  | .interface => 9

def ofTag (tag : UInt8) : Except HandleTagError ReferenceKind :=
  match all.find? (·.tag == tag) with
  | some kind => .ok kind
  | none => .error ⟨tag⟩

def name : ReferenceKind → String
  | .static => "static"
  | .constructor => "constructor"
  | .virtual => "virtual"
  | .special => "special"
  | .interface => "interface"

def ofName? (name : String) : Option ReferenceKind := all.find? (·.name == name)

/-- The call takes a receiver that exists before it. -/
def takesReceiver : ReferenceKind → Bool
  | .static | .constructor => false
  | .virtual | .special | .interface => true

def invokeOpcode : ReferenceKind → Opcode
  | .static => .invokestatic
  | .constructor | .special => .invokespecial
  | .virtual => .invokevirtual
  | .interface => .invokeinterface

@[simp] theorem ofTag_tag (kind : ReferenceKind) : ofTag kind.tag = .ok kind := by
  cases kind <;> rfl

end ReferenceKind

structure MethodRef where
  kind : ReferenceKind
  owner : String
  name : String
  descriptor : MethodDescriptor
  deriving DecidableEq, Repr

namespace MethodRef

def signature (method : MethodRef) : MethodSignature := ⟨method.name, method.descriptor⟩

def text (method : MethodRef) : String :=
  let signature := method.signature.text
  s!"{method.owner}.{signature} ({method.kind.name})"

end MethodRef

end LambdaLowering
