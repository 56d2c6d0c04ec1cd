import LambdaLowering.Decimal.Shortest

/-! The written form of decimals and floating-point numbers. -/

set_option autoImplicit false

namespace LambdaLowering.Decimal

/-- Numbers from one ten-thousandth up are written out, smaller ones with an exponent. -/
def plainFrom : Int := -4

/-- Numbers from ten to the sixteenth up are written with an exponent. -/
def plainBelow : Int := 16

def Scaled.plainText (number : Scaled) : String :=
  let digits := Nat.toDigits 10 number.digits
  if 0 ≤ number.exponent then
    String.ofList (digits ++ List.replicate number.exponent.toNat '0' ++ ['.', '0'])
  else
    let places := (-number.exponent).toNat
    let padded := List.replicate (places + 1 - digits.length) '0' ++ digits
    let whole := padded.length - places
    String.ofList (padded.take whole ++ '.' :: padded.drop whole)

def Scaled.exponentText (number : Scaled) : String :=
  match Nat.toDigits 10 number.digits with
  | [] => ""
  | first :: others =>
    let fraction := if others.isEmpty then [] else '.' :: others
    let leading := number.exponent + (others.length : Int)
    String.ofList (first :: (fraction ++ ['e'])) ++ toString leading

def Scaled.text (number : Scaled) : String :=
  let leading := number.exponent + ((Nat.toDigits 10 number.digits).length : Int) - 1
  if plainFrom ≤ leading ∧ leading < plainBelow then number.plainText else number.exponentText

end LambdaLowering.Decimal

namespace LambdaLowering.FloatingPoint

def withSign (negative : Bool) (text : String) : String :=
  if negative then "-" ++ text else text

/-- The fewest digits that read back; a zero keeps its sign. -/
def text : FloatingPoint → String
  | .nan => "NaN"
  | .infinity negative => withSign negative "inf"
  | .finite negative magnitude =>
    withSign negative
      (if magnitude.significand = 0 then "0.0" else (Decimal.shortest magnitude).text)

end LambdaLowering.FloatingPoint
