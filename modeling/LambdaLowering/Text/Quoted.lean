import LambdaLowering.Text.Unprintable
import LambdaLowering.Text.GraphemeExtend

/-! Quoted texts, with escapes for what would not be visible or would end the quotation. -/

set_option autoImplicit false

namespace LambdaLowering.Text

def escapeLetter? : Char → Option Char
  | '\x00' => some '0'
  | '\t' => some 't'
  | '\r' => some 'r'
  | '\n' => some 'n'
  | '"' => some '"'
  | '\\' => some '\\'
  | _ => none

def escapeNumber (c : Char) : List Char :=
  '\\' :: 'u' :: '\x7b' :: (Nat.toDigits 16 c.toNat ++ ['\x7d'])

def escape (c : Char) : List Char :=
  match escapeLetter? c with
  | some letter => ['\\', letter]
  | none => if extendsGrapheme c || isUnprintable c then escapeNumber c else [c]

def quoted (text : String) : String :=
  String.ofList ('"' :: (text.toList.flatMap escape ++ ['"']))

end LambdaLowering.Text
