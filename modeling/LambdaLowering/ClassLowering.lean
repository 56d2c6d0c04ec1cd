import LambdaLowering.Config
import LambdaLowering.MethodLowering

/-! Lowering one class on its way to a consumer.

The class passes through event by event. Its deserialization hook is left out, its lambda call sites
become factory calls, and the accessors that these need are appended just before the class end.
-/

set_option autoImplicit false

namespace LambdaLowering

structure ClassLowering where
  host : Option HostClass := none
  pending : PendingAccessors := .empty
  /-- The call sites replaced in the open method, if one is open. -/
  current : Option Nat := none
  stats : Stats := {}
  deriving DecidableEq, Repr

namespace ClassLowering

variable {S : Type}

def update (change : ClassLowering → ClassLowering) : Action (ClassLowering × S) Unit :=
  modify fun (lowering, state) => (change lowering, state)

/-- A class header starts the class anew, even if the consumer then refuses it. -/
def start (config : Config) (services : Services S) (consumer : Sink S) (header : ClassHeader) :
    Action (ClassLowering × S) Bool := do
  if config.restartNumbering then
    services.tryRestartNumbering.onSnd
  update fun lowering => { lowering with host := some (.ofHeader header), pending := .empty }
  (consumer.receive (.classHeader header)).onSnd

def openMethod (services : Services S) (consumer : Sink S) (header : MethodHeader) :
    Action (ClassLowering × S) Bool := do
  if ← (services.keeps header).onSnd then
    let kept ← (consumer.receive (.methodHeader header)).onSnd
    if kept then
      update fun lowering => { lowering with current := some 0 }
    return kept
  else
    update fun lowering =>
      { lowering with stats := { lowering.stats with hooks := lowering.stats.hooks + 1 } }
    return false

def onMethod (replaced : Nat) (action : Action (MethodLowering × S) Unit) :
    Action (ClassLowering × S) Unit := fun (lowering, state) =>
  let resume (method : MethodLowering) : ClassLowering :=
    { lowering with current := some method.replaced, pending := method.pending }
  match action (⟨replaced, lowering.pending⟩, state) with
  | .ok value (method, state) => .ok value (resume method, state)
  | .error error (method, state) => .error error (resume method, state)

def lower (config : Config) (services : Services S) (consumer : Sink S)
    (instruction : Instruction) : Action (ClassLowering × S) Unit := do
  let (lowering, _) ← get
  match lowering.host, lowering.current with
  | some host, some replaced =>
    onMethod replaced
      (MethodLowering.lower services config.metafactory host consumer instruction)
  | _, _ => throw (.malformed (.instructionOutsideMethod instruction))

/-- The open method closes, and its call sites count, even if the consumer then objects. -/
def closeMethod (consumer : Sink S) : Action (ClassLowering × S) Bool := do
  update fun lowering =>
    { lowering with
      current := none
      stats := { lowering.stats with
        callSites := lowering.stats.callSites + lowering.current.getD 0 } }
  (consumer.receive .methodEnd).onSnd

/-- Declare one accessor, with the body that forwards to its target. It counts even if the consumer
does not keep it. -/
def declare (consumer : Sink S) (accessor : Accessor) : Action (ClassLowering × S) Unit := do
  ((accessor.declaration Accessor.hostAccess).streamTo consumer).onSnd
  update fun lowering =>
    { lowering with stats := { lowering.stats with accessors := lowering.stats.accessors + 1 } }

def takePending : Action (ClassLowering × S) (List Accessor) :=
  modifyGet fun (lowering, state) =>
    let (accessors, pending) := lowering.pending.take
    (accessors, ({ lowering with pending }, state))

/-- Declare what is pending, then end the class. An accessor that cannot be declared takes those
after it with it. -/
def finish (services : Services S) (consumer : Sink S) : Action (ClassLowering × S) Bool := do
  -- The table is empty from here on, whatever becomes of the accessors.
  let accessors ← takePending
  accessors.forM (declare consumer)
  let (lowering, _) ← get
  if let some host := lowering.host then
    (services.report (.classFinished host lowering.stats)).onSnd
  (consumer.receive .classEnd).onSnd

def sink (config : Config) (services : Services S) (consumer : Sink S) :
    Sink (ClassLowering × S) where
  receive
    | .classHeader header => start config services consumer header
    | .methodHeader header => openMethod services consumer header
    | .instruction instruction => do
      lower config services consumer instruction
      return true
    | .methodEnd => closeMethod consumer
    | .classEnd => finish services consumer

end ClassLowering

end LambdaLowering
