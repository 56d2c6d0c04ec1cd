import LambdaLowering.Constant
import LambdaLowering.Decimal.Layout
import LambdaLowering.Text.Quoted

/-! The text of a constant: its parts spelled out one by one, each under its name. -/

set_option autoImplicit false

namespace LambdaLowering

def spelledRecord (name : String) (fields : List (String × String)) : String :=
  let body := ", ".intercalate (fields.map fun (label, value) => label ++ ": " ++ value)
  name ++ " \x7b " ++ body ++ " \x7d"

def spelledVariant (name content : String) : String := name ++ "(" ++ content ++ ")"

def Primitive.spelledOut : Primitive → String
  | .byte => "Byte"
  | .char => "Char"
  | .double => "Double"
  | .float => "Float"
  | .int => "Int"
  | .long => "Long"
  | .short => "Short"
  | .boolean => "Boolean"

def FieldType.spelledOut : FieldType → String
  | .primitive p => p.spelledOut
  | .object name => spelledVariant "Object" (Text.quoted name)
  | .array component => spelledVariant "Array" component.spelledOut

def ReturnType.spelledOut : ReturnType → String
  | .void => "Void"
  | .value type => spelledVariant "Value" type.spelledOut

def MethodDescriptor.spelledOut (descriptor : MethodDescriptor) : String :=
  let params := ", ".intercalate (descriptor.params.map FieldType.spelledOut)
  spelledRecord "MethodDescriptor"
    [("params", "[" ++ params ++ "]"), ("return_type", descriptor.result.spelledOut)]

def ReferenceKind.spelledOut : ReferenceKind → String
  | .static => "Static"
  | .constructor => "Constructor"
  | .virtual => "Virtual"
  | .special => "Special"
  | .interface => "Interface"

def MethodRef.spelledOut (method : MethodRef) : String :=
  spelledRecord "MethodRef"
    [("owner", Text.quoted method.owner), ("name", Text.quoted method.name),
      ("descriptor", method.descriptor.spelledOut), ("kind", method.kind.spelledOut)]

def Constant.spelledOut : Constant → String
  | .int value => spelledVariant "Int" (toString value.toInt)
  | .long value => spelledVariant "Long" (toString value.toInt)
  | .float word => spelledVariant "Float" (FloatingPoint.decode .single word.toNat).text
  | .double word => spelledVariant "Double" (FloatingPoint.decode .double word.toNat).text
  | .string value => spelledVariant "String" (Text.quoted value)
  | .classRef name => spelledVariant "Class" (Text.quoted name)
  | .methodType descriptor => spelledVariant "MethodType" descriptor.spelledOut
  | .handle method => spelledVariant "Handle" method.spelledOut

end LambdaLowering
