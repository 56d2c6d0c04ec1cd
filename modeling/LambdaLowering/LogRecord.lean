import LambdaLowering.LambdaRequest
import LambdaLowering.Accessor

/-! What a lowering reports while it runs. -/

set_option autoImplicit false

namespace LambdaLowering

structure Stats where
  callSites : Nat := 0
  accessors : Nat := 0
  hooks : Nat := 0
  deriving DecidableEq, Repr

inductive LogLevel where
  | warn | debug | trace
  deriving DecidableEq, Repr

def LogLevel.name : LogLevel → String
  | .warn => "WARN"
  | .debug => "DEBUG"
  | .trace => "TRACE"

inductive LogRecord where
  | restartFailed (error : Error)
  | batchStarted (size : Nat) (parallel : Bool)
  | classFinished (host : HostClass) (stats : Stats)
  | accessorPlanned (accessor : Accessor)
  | hookDropped (signature : MethodSignature)
  | callSiteLowered (host : HostClass) (implementation : MethodRef) (factory : Factory)
  deriving DecidableEq, Repr

namespace LogRecord

def level : LogRecord → LogLevel
  | .restartFailed _ => .warn
  | .batchStarted _ _ | .classFinished _ _ | .accessorPlanned _ => .debug
  | .hookDropped _ | .callSiteLowered _ _ _ => .trace

def text : LogRecord → String
  | .restartFailed error =>
    "Failed to start lambda class numbering from zero. This is cosmetic, generated " ++
      s!"class names may differ between runs: {error.display}"
  | .batchStarted size parallel =>
    let manner := if parallel then "parallel" else "sequential"
    s!"Rewriting {size} classes ({manner})"
  | .classFinished host stats =>
    s!"{host.name}: {stats.callSites} lambda call sites, {stats.accessors} accessors, " ++
      s!"{stats.hooks} hooks removed"
  | .accessorPlanned accessor =>
    s!"{accessor.target.text} needs accessor {accessor.method.name}"
  | .hookDropped signature => s!"Dropping {signature.text}"
  | .callSiteLowered host implementation factory =>
    s!"{host.name}: {implementation.text} -> {factory.text}"

end LogRecord

end LambdaLowering
