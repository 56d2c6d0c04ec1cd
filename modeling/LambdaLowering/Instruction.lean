import LambdaLowering.Constant.Text

/-! Instructions of a method body, as far as a body has to be understood to replace call sites. -/

set_option autoImplicit false

namespace LambdaLowering

structure CallSite where
  name : String
  descriptor : MethodDescriptor
  bootstrap : MethodRef
  arguments : List Constant
  deriving DecidableEq, Repr

def CallSite.sameValue (a b : CallSite) : Bool :=
  a.name == b.name && a.descriptor == b.descriptor && a.bootstrap == b.bootstrap &&
    a.arguments.length == b.arguments.length &&
    (a.arguments.zip b.arguments).all fun (x, y) => x.sameValue y

inductive Instruction where
  | simple (opcode : Opcode)
  | immediate (opcode : Opcode) (operand : Int32)
  /-- Slots are unbounded here. Class files number them with sixteen bits, which is assumed where it
  matters: when parameters are laid out in slots. -/
  | localVar (opcode : Opcode) (slot : Nat)
  | increment (slot : Nat) (amount : Int16)
  | onType (opcode : Opcode) (name : String)
  | field (opcode : Opcode) (owner name : String) (type : FieldType)
  | invoke (opcode : Opcode) (owner name : String) (descriptor : MethodDescriptor)
      (ofInterface : Bool)
  | dynamic (site : CallSite)
  | constant (value : Constant)
  | jump (opcode : Opcode) (target : Nat)
  | label (number : Nat)
  /-- An instruction that is passed through unread. -/
  | raw (code : UInt8) (operands : List UInt8)
  deriving DecidableEq, Repr

namespace Instruction

def call (method : MethodRef) : Instruction :=
  .invoke method.kind.invokeOpcode method.owner method.name method.descriptor
    (method.kind == .interface)

def opcode? : Instruction → Option Opcode
  | .simple opcode | .immediate opcode _ | .localVar opcode _ | .onType opcode _
  | .field opcode _ _ _ | .invoke opcode _ _ _ _ | .jump opcode _ => some opcode
  | .increment _ _ => some .iinc
  | .dynamic _ => some .invokedynamic
  | .constant _ => some .ldc
  | .label _ => none
  | .raw code _ => Opcode.ofByte? code

def callSite? : Instruction → Option CallSite
  | .dynamic site => some site
  | _ => none

def sameValue : Instruction → Instruction → Bool
  | .constant a, .constant b => a.sameValue b
  | .dynamic a, .dynamic b => a.sameValue b
  | a, b => a == b

def hexByte (byte : UInt8) : String :=
  let digits := Nat.toDigits 16 byte.toNat
  String.ofList (List.replicate (2 - digits.length) '0' ++ digits)

def text : Instruction → String
  | .simple opcode => opcode.mnemonic
  | .immediate opcode operand => s!"{opcode.mnemonic} {operand.toInt}"
  | .localVar opcode slot => s!"{opcode.mnemonic} {slot}"
  | .increment slot amount => s!"{Opcode.iinc.mnemonic} {slot} {amount.toInt}"
  | .onType opcode name => s!"{opcode.mnemonic} {name}"
  | .field opcode owner name fieldType => s!"{opcode.mnemonic} {owner}.{name}:{fieldType.text}"
  | .invoke opcode owner name descriptor _ =>
    s!"{opcode.mnemonic} {owner}.{name}{descriptor.text}"
  | .dynamic site =>
    let target := s!"{site.bootstrap.owner}.{site.bootstrap.name}"
    s!"{Opcode.invokedynamic.mnemonic} {site.name}{site.descriptor.text} [{target}]"
  | .constant value => s!"{Opcode.ldc.mnemonic} {value.spelledOut}"
  | .jump opcode target => s!"{opcode.mnemonic} L{target}"
  | .label number => s!"L{number}:"
  | .raw code operands => "0x" ++ " ".intercalate ((code :: operands).map hexByte)

end Instruction

end LambdaLowering
