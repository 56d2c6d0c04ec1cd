import LambdaLowering.Catalog

/-! What is asked when the class of a lambda is to be generated, and what is answered. -/

set_option autoImplicit false

namespace LambdaLowering

structure LambdaRequest where
  implementation : MethodRef
  /-- What the generated class calls: the implementation, or an accessor that forwards to it. -/
  callee : MethodRef
  invoker : LoadedClass
  invokedName : String
  invokedType : MethodDescriptor
  bootstrap : MethodRef
  arguments : List Constant
  deriving DecidableEq, Repr

/-- The static method that makes the lambda in place of its call site. -/
structure Factory where
  owner : String
  name : String
  descriptor : MethodDescriptor
  deriving DecidableEq, Repr

namespace Factory

def call (factory : Factory) : Instruction :=
  .invoke .invokestatic factory.owner factory.name factory.descriptor false

def text (factory : Factory) : String :=
  s!"{factory.owner}.{factory.name}{factory.descriptor.text}"

end Factory

def implementationPosition : Nat := 1

namespace CallSite

def implementation? (site : CallSite) : Option MethodRef :=
  site.arguments[implementationPosition]? >>= Constant.handle?

def request (site : CallSite) (invoker : LoadedClass) (implementation callee : MethodRef) :
    LambdaRequest where
  implementation := implementation
  callee := callee
  invoker := invoker
  invokedName := site.name
  invokedType := site.descriptor
  bootstrap := site.bootstrap
  arguments := site.arguments

end CallSite

def Instruction.lambdaSite? (metafactory : String) : Instruction → Option CallSite
  | .dynamic site => if site.bootstrap.owner == metafactory then some site else none
  | _ => none

end LambdaLowering
