/-! Binary floating-point words, decoded exactly. -/

set_option autoImplicit false

namespace LambdaLowering

structure BinaryFormat where
  exponentBits : Nat
  fractionBits : Nat
  deriving DecidableEq, Repr

namespace BinaryFormat

def single : BinaryFormat := ⟨8, 23⟩

def double : BinaryFormat := ⟨11, 52⟩

def specialExponent (format : BinaryFormat) : Nat := Nat.pow 2 format.exponentBits - 1

/-- What an exponent field of one has to be lowered by so that it counts the last fraction bit. -/
def offset (format : BinaryFormat) : Nat :=
  Nat.pow 2 (format.exponentBits - 1) - 1 + format.fractionBits

end BinaryFormat

/-- The number `significand * 2 ^ exponent`. -/
structure Magnitude where
  significand : Nat
  exponent : Int
  /-- The next smaller number of the format is only half as far away as the next larger one. -/
  narrowBelow : Bool
  deriving DecidableEq, Repr

inductive FloatingPoint where
  | nan
  | infinity (negative : Bool)
  | finite (negative : Bool) (magnitude : Magnitude)
  deriving DecidableEq, Repr

namespace FloatingPoint

def decode (format : BinaryFormat) (word : Nat) : FloatingPoint :=
  let hidden := Nat.pow 2 format.fractionBits
  let fraction := word % hidden
  let exponent := word / hidden % Nat.pow 2 format.exponentBits
  let negative := word / Nat.pow 2 (format.fractionBits + format.exponentBits) % 2 == 1
  if exponent = format.specialExponent then
    if fraction = 0 then .infinity negative else .nan
  else if exponent = 0 then
    .finite negative ⟨fraction, 1 - (format.offset : Int), false⟩
  else
    .finite negative ⟨hidden + fraction, (exponent : Int) - format.offset,
      fraction == 0 && exponent != 1⟩

/-- Equality of numbers: nothing equals a NaN, and the two zeros are equal. -/
def sameNumber : FloatingPoint → FloatingPoint → Bool
  | .nan, _ | _, .nan => false
  | .infinity a, .infinity b => a == b
  | .finite a x, .finite b y =>
    (x.significand == 0 && y.significand == 0) || (a == b && x == y)
  | _, _ => false

end FloatingPoint

end LambdaLowering
