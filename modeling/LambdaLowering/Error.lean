import LambdaLowering.ClassStream
import LambdaLowering.Descriptor.Parser

/-! What can go wrong, by cause. The wording of every cause stands in this module alone. -/

set_option autoImplicit false

namespace LambdaLowering

structure SourceLocation where
  file : String
  line : Nat
  deriving DecidableEq, Repr

inductive Malformation where
  | descriptor (error : DescriptorError)
  | handleTag (error : HandleTagError)
  | outOfOrder (event : Event) (phase : StreamPhase)
  | duplicateMethod (signature : MethodSignature)
  | unfinishedClass
  | missingImplementation (site : CallSite) (host : String)
  | instructionOutsideMethod (instruction : Instruction)
  | reported (message : String) (location : SourceLocation)
  deriving DecidableEq, Repr

inductive Error where
  | malformed (cause : Malformation)
  /-- The method belongs to the class at hand but the index does not know it. -/
  | notAnalyzed (method : MethodRef)
  | classLoad (name reason : String)
  | reification (message : String)
  | sequenceReset (message : String)
  deriving DecidableEq, Repr

namespace Malformation

def message : Malformation → String
  | .descriptor error => error.message
  | .handleTag error => error.message
  | .outOfOrder event phase =>
    s!"Unexpected {event.description} while in state {phase.name}"
  | .duplicateMethod signature => s!"Duplicate method {signature.text}"
  | .unfinishedClass => "Class stream ended before visit_end"
  | .missingImplementation site host =>
    s!"Lambda call site {site.name}{site.descriptor.text} in {host} has no " ++
      "implementation method handle"
  | .instructionOutsideMethod instruction =>
    s!"Instruction {instruction.text} outside of a method"
  | .reported message _ => message

def located : Malformation → String
  | .reported message location => s!"{location.file}:{location.line}: {message}"
  | cause => cause.message

end Malformation

namespace Error

/-- The wording that every reader of the error sees; places in a source file are left out. -/
def message : Error → String
  | .malformed cause => cause.message
  | .notAnalyzed method => s!"Non-analyzed method {method.text}. Report this as a bug."
  | .classLoad name reason => s!"Failed to load class {name} - {reason}"
  | .reification message => s!"Lambda reification failed - {message}"
  | .sequenceReset message => s!"Failed to reset lambda class numbering - {message}"

def display : Error → String
  | .malformed cause => s!"Malformed - {cause.located}"
  | error => error.message

end Error

end LambdaLowering
