import LambdaLowering.Error

/-! Consumers of class streams.

An action may fail, and a failed action still leaves a state behind: what was done before the
failure stays done.
-/

set_option autoImplicit false

namespace LambdaLowering

/-- A computation on a state that may fail. The state survives a failure. -/
abbrev Action (S : Type) := EStateM Error S

namespace Action

variable {S T α : Type}

def ofExcept : Except Error α → Action S α
  | .ok value => pure value
  | .error error => throw error

def onSnd (action : Action S α) : Action (T × S) α := fun (outer, inner) =>
  match action inner with
  | .ok value inner => .ok value (outer, inner)
  | .error error inner => .error error (outer, inner)

/-- Act with a state of one's own, given its first value, which a failure discards. -/
def withOwn (first : T) (action : Action (T × S) α) : Action S (α × T) := fun state =>
  match action (first, state) with
  | .ok value (own, state) => .ok (value, own) state
  | .error error (_, state) => .error error state

end Action

/-- A consumer of events. Its answer to a method header says whether it keeps the method: a method
that is not kept gets neither instructions nor an end. Its answer to any other event says nothing.
-/
structure Sink (S : Type) where
  receive : Event → Action S Bool

variable {S : Type}

def Sink.send (sink : Sink S) (event : Event) : Action S Unit := do
  let _ ← sink.receive event

def Method.streamTo (method : Method) (sink : Sink S) : Action S Unit := do
  if ← sink.receive (.methodHeader method.header) then
    method.code.forM fun instruction => sink.send (.instruction instruction)
    sink.send .methodEnd

def ClassFile.streamTo (file : ClassFile) (sink : Sink S) : Action S Unit := do
  sink.send (.classHeader file.header)
  file.methods.forM (·.streamTo sink)
  sink.send .classEnd

end LambdaLowering
