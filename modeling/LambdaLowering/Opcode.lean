/-! The instruction opcodes that have a name here, with their byte and mnemonic. -/

set_option autoImplicit false

namespace LambdaLowering

inductive Opcode where
  | nop | aconstNull | iconstM1 | iconst0 | iconst1 | iconst2 | iconst3 | iconst4 | iconst5
  | lconst0 | lconst1 | fconst0 | dconst0 | bipush | sipush | ldc
  | iload | lload | fload | dload | aload | iaload | aaload
  | istore | lstore | fstore | dstore | astore | aastore
  | pop | pop2 | dup | dupX1 | swap
  | iadd | ladd | isub | imul | iinc
  | ifeq | ifne | ifIcmpeq | ifIcmpne | ifAcmpeq | ifAcmpne | goto
  | ireturn | lreturn | freturn | dreturn | areturn | voidReturn
  | getstatic | putstatic | getfield | putfield
  | invokevirtual | invokespecial | invokestatic | invokeinterface | invokedynamic
  | newObject | newarray | anewarray | arraylength | athrow | checkcast | instanceof
  | monitorenter | monitorexit | ifnull | ifnonnull
  deriving DecidableEq, Repr

namespace Opcode

def all : List Opcode :=
  [.nop, .aconstNull, .iconstM1, .iconst0, .iconst1, .iconst2, .iconst3, .iconst4, .iconst5,
    .lconst0, .lconst1, .fconst0, .dconst0, .bipush, .sipush, .ldc,
    .iload, .lload, .fload, .dload, .aload, .iaload, .aaload,
    .istore, .lstore, .fstore, .dstore, .astore, .aastore,
    .pop, .pop2, .dup, .dupX1, .swap,
    .iadd, .ladd, .isub, .imul, .iinc,
    .ifeq, .ifne, .ifIcmpeq, .ifIcmpne, .ifAcmpeq, .ifAcmpne, .goto,
    .ireturn, .lreturn, .freturn, .dreturn, .areturn, .voidReturn,
    .getstatic, .putstatic, .getfield, .putfield,
    .invokevirtual, .invokespecial, .invokestatic, .invokeinterface, .invokedynamic,
    .newObject, .newarray, .anewarray, .arraylength, .athrow, .checkcast, .instanceof,
    .monitorenter, .monitorexit, .ifnull, .ifnonnull]

def byte : Opcode → UInt8
  | .nop => 0x00
  | .aconstNull => 0x01
  | .iconstM1 => 0x02
  | .iconst0 => 0x03
  | .iconst1 => 0x04
  | .iconst2 => 0x05
  | .iconst3 => 0x06
  | .iconst4 => 0x07
  | .iconst5 => 0x08
  | .lconst0 => 0x09
  | .lconst1 => 0x0a
  | .fconst0 => 0x0b
  | .dconst0 => 0x0e
  | .bipush => 0x10
  | .sipush => 0x11
  | .ldc => 0x12
  | .iload => 0x15
  | .lload => 0x16
  | .fload => 0x17
  | .dload => 0x18
  | .aload => 0x19
  | .iaload => 0x2e
  | .aaload => 0x32
  | .istore => 0x36
  | .lstore => 0x37
  | .fstore => 0x38
  | .dstore => 0x39
  | .astore => 0x3a
  | .aastore => 0x53
  | .pop => 0x57
  | .pop2 => 0x58
  | .dup => 0x59
  | .dupX1 => 0x5a
  | .swap => 0x5f
  | .iadd => 0x60
  | .ladd => 0x61
  | .isub => 0x64
  | .imul => 0x68
  | .iinc => 0x84
  | .ifeq => 0x99
  | .ifne => 0x9a
  | .ifIcmpeq => 0x9f
  | .ifIcmpne => 0xa0
  | .ifAcmpeq => 0xa5
  | .ifAcmpne => 0xa6
  | .goto => 0xa7
  | .ireturn => 0xac
  | .lreturn => 0xad
  | .freturn => 0xae
  | .dreturn => 0xaf
  | .areturn => 0xb0
  | .voidReturn => 0xb1
  | .getstatic => 0xb2
  | .putstatic => 0xb3
  | .getfield => 0xb4
  | .putfield => 0xb5
  | .invokevirtual => 0xb6
  | .invokespecial => 0xb7
  | .invokestatic => 0xb8
  | .invokeinterface => 0xb9
  | .invokedynamic => 0xba
  | .newObject => 0xbb
  | .newarray => 0xbc
  | .anewarray => 0xbd
  | .arraylength => 0xbe
  | .athrow => 0xbf
  | .checkcast => 0xc0
  | .instanceof => 0xc1
  | .monitorenter => 0xc2
  | .monitorexit => 0xc3
  | .ifnull => 0xc6
  | .ifnonnull => 0xc7

def mnemonic : Opcode → String
  | .nop => "nop"
  | .aconstNull => "aconst_null"
  | .iconstM1 => "iconst_m1"
  | .iconst0 => "iconst_0"
  | .iconst1 => "iconst_1"
  | .iconst2 => "iconst_2"
  | .iconst3 => "iconst_3"
  | .iconst4 => "iconst_4"
  | .iconst5 => "iconst_5"
  | .lconst0 => "lconst_0"
  | .lconst1 => "lconst_1"
  | .fconst0 => "fconst_0"
  | .dconst0 => "dconst_0"
  | .bipush => "bipush"
  | .sipush => "sipush"
  | .ldc => "ldc"
  | .iload => "iload"
  | .lload => "lload"
  | .fload => "fload"
  | .dload => "dload"
  | .aload => "aload"
  | .iaload => "iaload"
  | .aaload => "aaload"
  | .istore => "istore"
  | .lstore => "lstore"
  | .fstore => "fstore"
  | .dstore => "dstore"
  | .astore => "astore"
  | .aastore => "aastore"
  | .pop => "pop"
  | .pop2 => "pop2"
  | .dup => "dup"
  | .dupX1 => "dup_x1"
  | .swap => "swap"
  | .iadd => "iadd"
  | .ladd => "ladd"
  | .isub => "isub"
  | .imul => "imul"
  | .iinc => "iinc"
  | .ifeq => "ifeq"
  | .ifne => "ifne"
  | .ifIcmpeq => "if_icmpeq"
  | .ifIcmpne => "if_icmpne"
  | .ifAcmpeq => "if_acmpeq"
  | .ifAcmpne => "if_acmpne"
  | .goto => "goto"
  | .ireturn => "ireturn"
  | .lreturn => "lreturn"
  | .freturn => "freturn"
  | .dreturn => "dreturn"
  | .areturn => "areturn"
  | .voidReturn => "return"
  | .getstatic => "getstatic"
  | .putstatic => "putstatic"
  | .getfield => "getfield"
  | .putfield => "putfield"
  | .invokevirtual => "invokevirtual"
  | .invokespecial => "invokespecial"
  | .invokestatic => "invokestatic"
  | .invokeinterface => "invokeinterface"
  | .invokedynamic => "invokedynamic"
  | .newObject => "new"
  | .newarray => "newarray"
  | .anewarray => "anewarray"
  | .arraylength => "arraylength"
  | .athrow => "athrow"
  | .checkcast => "checkcast"
  | .instanceof => "instanceof"
  | .monitorenter => "monitorenter"
  | .monitorexit => "monitorexit"
  | .ifnull => "ifnull"
  | .ifnonnull => "ifnonnull"

def ofByte? (byte : UInt8) : Option Opcode := all.find? (·.byte == byte)

def ofMnemonic? (mnemonic : String) : Option Opcode := all.find? (·.mnemonic == mnemonic)

def isInvoke : Opcode → Bool
  | .invokevirtual | .invokespecial | .invokestatic | .invokeinterface | .invokedynamic => true
  | _ => false

def isReturn : Opcode → Bool
  | .ireturn | .lreturn | .freturn | .dreturn | .areturn | .voidReturn => true
  | _ => false

theorem mem_all (opcode : Opcode) : opcode ∈ all := by
  cases opcode <;> decide

end Opcode

end LambdaLowering
