/-! Access flags of classes and methods: a 16-bit word of which fifteen bits have a name.

The remaining bit has no meaning here and is carried along unchanged.
-/

set_option autoImplicit false

namespace LambdaLowering

inductive AccessFlag where
  | isPublic | isPrivate | isProtected | isStatic | isFinal
  | isSynchronized | isBridge | isVarargs | isNative | isInterface
  | isAbstract | isStrict | isSynthetic | isAnnotationType | isEnum
  deriving DecidableEq, Repr

namespace AccessFlag

def all : List AccessFlag :=
  [.isPublic, .isPrivate, .isProtected, .isStatic, .isFinal,
    .isSynchronized, .isBridge, .isVarargs, .isNative, .isInterface,
    .isAbstract, .isStrict, .isSynthetic, .isAnnotationType, .isEnum]

def mask : AccessFlag → UInt16
  | .isPublic => 0x0001
  | .isPrivate => 0x0002
  | .isProtected => 0x0004
  | .isStatic => 0x0008
  | .isFinal => 0x0010
  | .isSynchronized => 0x0020
  | .isBridge => 0x0040
  | .isVarargs => 0x0080
  | .isNative => 0x0100
  | .isInterface => 0x0200
  | .isAbstract => 0x0400
  | .isStrict => 0x0800
  | .isSynthetic => 0x1000
  | .isAnnotationType => 0x2000
  | .isEnum => 0x4000

def name : AccessFlag → String
  | .isPublic => "PUBLIC"
  | .isPrivate => "PRIVATE"
  | .isProtected => "PROTECTED"
  | .isStatic => "STATIC"
  | .isFinal => "FINAL"
  | .isSynchronized => "SYNCHRONIZED"
  | .isBridge => "BRIDGE"
  | .isVarargs => "VARARGS"
  | .isNative => "NATIVE"
  | .isInterface => "INTERFACE"
  | .isAbstract => "ABSTRACT"
  | .isStrict => "STRICT"
  | .isSynthetic => "SYNTHETIC"
  | .isAnnotationType => "ANNOTATION"
  | .isEnum => "ENUM"

end AccessFlag

structure AccessFlags where
  bits : UInt16
  deriving DecidableEq, Repr, Inhabited

namespace AccessFlags

def none : AccessFlags := ⟨0⟩

def ofFlags (flags : List AccessFlag) : AccessFlags :=
  ⟨flags.foldl (fun bits flag => bits ||| flag.mask) 0⟩

def union (a b : AccessFlags) : AccessFlags := ⟨a.bits ||| b.bits⟩

def inter (a b : AccessFlags) : AccessFlags := ⟨a.bits &&& b.bits⟩

def diff (a b : AccessFlags) : AccessFlags := ⟨a.bits &&& ~~~b.bits⟩

def contains (a b : AccessFlags) : Bool := a.bits &&& b.bits == b.bits

def intersects (a b : AccessFlags) : Bool := a.bits &&& b.bits != 0

def has (a : AccessFlags) (flag : AccessFlag) : Bool := a.contains ⟨flag.mask⟩

def named (a : AccessFlags) : List AccessFlag := AccessFlag.all.filter a.has

end AccessFlags

end LambdaLowering
