import LambdaLowering.ClassFile

/-! Classes as flat streams of events.

A stream is a class header, then for every method its header, its instructions and a method end,
and last a class end.
-/

set_option autoImplicit false

namespace LambdaLowering

inductive Event where
  | classHeader (header : ClassHeader)
  | methodHeader (header : MethodHeader)
  | instruction (instruction : Instruction)
  | methodEnd
  | classEnd
  deriving DecidableEq, Repr

def Event.description : Event → String
  | .classHeader _ => "class header"
  | .methodHeader _ => "method header"
  | .instruction _ => "instruction"
  | .methodEnd => "method end"
  | .classEnd => "class end"

inductive StreamPhase where
  | initial | inClass | inMethod | finished
  deriving DecidableEq, Repr

def StreamPhase.name : StreamPhase → String
  | .initial => "Initial"
  | .inClass => "InClass"
  | .inMethod => "InMethod"
  | .finished => "Finished"

def Method.events (method : Method) : List Event :=
  .methodHeader method.header :: (method.code.map .instruction ++ [.methodEnd])

def ClassFile.events (file : ClassFile) : List Event :=
  .classHeader file.header :: (file.methods.flatMap Method.events ++ [.classEnd])

end LambdaLowering
