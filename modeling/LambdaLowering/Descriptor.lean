import LambdaLowering.Opcode

/-! Types of fields and methods, and their descriptor texts.

A value may hold class names that no descriptor text can spell: values are also built from parts,
and two different values may then share one text.
-/

set_option autoImplicit false

namespace LambdaLowering

inductive Primitive where
  | byte | char | double | float | int | long | short | boolean
  deriving DecidableEq, Repr

namespace Primitive

def code : Primitive → Char
  | .byte => 'B'
  | .char => 'C'
  | .double => 'D'
  | .float => 'F'
  | .int => 'I'
  | .long => 'J'
  | .short => 'S'
  | .boolean => 'Z'

def ofCode? : Char → Option Primitive
  | 'B' => some .byte
  | 'C' => some .char
  | 'D' => some .double
  | 'F' => some .float
  | 'I' => some .int
  | 'J' => some .long
  | 'S' => some .short
  | 'Z' => some .boolean
  | _ => none

def name : Primitive → String
  | .byte => "byte"
  | .char => "char"
  | .double => "double"
  | .float => "float"
  | .int => "int"
  | .long => "long"
  | .short => "short"
  | .boolean => "boolean"

@[simp] theorem ofCode?_code (p : Primitive) : ofCode? p.code = some p := by
  cases p <;> rfl

end Primitive

inductive FieldType where
  | primitive (type : Primitive)
  | object (name : String)
  | array (component : FieldType)
  deriving DecidableEq, Repr

namespace FieldType

def toChars : FieldType → List Char
  | .primitive p => [p.code]
  | .object name => 'L' :: (name.toList ++ [';'])
  | .array component => '[' :: component.toChars

def text (type : FieldType) : String := String.ofList type.toChars

def dimensions : FieldType → Nat
  | .primitive _ | .object _ => 0
  | .array component => component.dimensions + 1

def base : FieldType → FieldType
  | .array component => component.base
  | type => type

def arrayOf : Nat → FieldType → FieldType
  | 0, type => type
  | n + 1, type => .array (arrayOf n type)

def slots : FieldType → Nat
  | .primitive .long | .primitive .double => 2
  | _ => 1

def totalSlots : List FieldType → Nat
  | [] => 0
  | type :: rest => type.slots + totalSlots rest

def loadOpcode : FieldType → Opcode
  | .primitive .long => .lload
  | .primitive .float => .fload
  | .primitive .double => .dload
  | .primitive _ => .iload
  | .object _ | .array _ => .aload

def returnOpcode : FieldType → Opcode
  | .primitive .long => .lreturn
  | .primitive .float => .freturn
  | .primitive .double => .dreturn
  | .primitive _ => .ireturn
  | .object _ | .array _ => .areturn

end FieldType

inductive ReturnType where
  | void
  | value (type : FieldType)
  deriving DecidableEq, Repr

namespace ReturnType

def toChars : ReturnType → List Char
  | .void => ['V']
  | .value type => type.toChars

def text (type : ReturnType) : String := String.ofList type.toChars

def returnOpcode : ReturnType → Opcode
  | .void => .voidReturn
  | .value type => type.returnOpcode

end ReturnType

structure MethodDescriptor where
  params : List FieldType
  result : ReturnType
  deriving DecidableEq, Repr

namespace MethodDescriptor

def toChars (descriptor : MethodDescriptor) : List Char :=
  '(' :: (descriptor.params.flatMap FieldType.toChars ++ ')' :: descriptor.result.toChars)

def text (descriptor : MethodDescriptor) : String := String.ofList descriptor.toChars

def argumentSlots (descriptor : MethodDescriptor) : Nat := FieldType.totalSlots descriptor.params

def returning (descriptor : MethodDescriptor) (type : FieldType) : MethodDescriptor :=
  { descriptor with result := .value type }

def withLeading (descriptor : MethodDescriptor) (type : FieldType) : MethodDescriptor :=
  { descriptor with params := type :: descriptor.params }

end MethodDescriptor

end LambdaLowering
