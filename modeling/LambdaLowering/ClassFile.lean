import LambdaLowering.AccessFlags
import LambdaLowering.Instruction

/-! Classes held in memory: a header, and methods with their bodies in declaration order. -/

set_option autoImplicit false

namespace LambdaLowering

structure ClassHeader where
  version : UInt32
  access : AccessFlags
  name : String
  genericSignature : Option String
  superName : Option String
  interfaces : List String
  deriving DecidableEq, Repr

def rootClassName : String := "java/lang/Object"

def ClassHeader.plain (version : UInt32) (access : AccessFlags) (name : String) : ClassHeader :=
  ⟨version, access, name, none, some rootClassName, []⟩

structure MethodHeader where
  access : AccessFlags
  name : String
  descriptor : MethodDescriptor
  genericSignature : Option String
  exceptions : List String
  deriving DecidableEq, Repr

namespace MethodHeader

def plain (access : AccessFlags) (name : String) (descriptor : MethodDescriptor) : MethodHeader :=
  ⟨access, name, descriptor, none, []⟩

def signature (header : MethodHeader) : MethodSignature := ⟨header.name, header.descriptor⟩

end MethodHeader

structure Method where
  header : MethodHeader
  code : List Instruction
  deriving DecidableEq, Repr

namespace Method

def signature (method : Method) : MethodSignature := method.header.signature

def sameValue (a b : Method) : Bool :=
  a.header == b.header && a.code.length == b.code.length &&
    (a.code.zip b.code).all fun (x, y) => x.sameValue y

end Method

structure ClassFile where
  header : ClassHeader
  methods : List Method
  deriving DecidableEq, Repr

namespace ClassFile

def name (file : ClassFile) : String := file.header.name

def find? (file : ClassFile) (signature : MethodSignature) : Option Method :=
  file.methods.find? (·.signature == signature)

def findNamed? (file : ClassFile) (name : String) : Option Method :=
  file.methods.find? (·.header.name == name)

def sameValue (a b : ClassFile) : Bool :=
  a.header == b.header && a.methods.length == b.methods.length &&
    (a.methods.zip b.methods).all fun (x, y) => x.sameValue y

end ClassFile

end LambdaLowering
