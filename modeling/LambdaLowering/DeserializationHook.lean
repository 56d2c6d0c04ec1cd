import LambdaLowering.ClassFile

/-! The hook by which serialized lambdas are restored. Lowered lambdas are serialized as plain
objects, so classes lose the hook. -/

set_option autoImplicit false

namespace LambdaLowering

namespace DeserializationHook

def name : String := "$deserializeLambda$"

def descriptorText : String := "(Ljava/lang/invoke/SerializedLambda;)Ljava/lang/Object;"

end DeserializationHook

/-- Only a compiler-made method is the hook; its descriptor is compared as text. -/
def MethodHeader.isDeserializationHook (header : MethodHeader) : Bool :=
  header.name == DeserializationHook.name && header.access.has .isSynthetic &&
    header.descriptor.text == DeserializationHook.descriptorText

end LambdaLowering
