import LambdaLowering.Sink

/-! Building a class from a stream of events.

The parts of the class are gathered in fields of their own, and the phase says which event can come
next. An event out of turn is refused, and so is a method that shares name and descriptor with an
earlier one.
-/

set_option autoImplicit false

namespace LambdaLowering

structure OpenMethod where
  header : MethodHeader
  code : Array Instruction
  deriving DecidableEq, Repr

def OpenMethod.push (method : OpenMethod) (instruction : Instruction) : OpenMethod :=
  { method with code := method.code.push instruction }

def OpenMethod.close (method : OpenMethod) : Method := ⟨method.header, method.code.toList⟩

structure ClassBuilder where
  phase : StreamPhase := .initial
  header : Option ClassHeader := none
  methods : Array Method := #[]
  current : Option OpenMethod := none
  /-- A set: no signature is in it twice. -/
  declared : List MethodSignature := []
  deriving DecidableEq, Repr

namespace ClassBuilder

def initial : ClassBuilder := {}

def expect (phase : StreamPhase) (event : Event) : Action ClassBuilder Unit := do
  let builder ← get
  if builder.phase ≠ phase then
    throw (.malformed (.outOfOrder event builder.phase))

def declare (signature : MethodSignature) : Action ClassBuilder Bool :=
  modifyGet fun builder =>
    (!builder.declared.contains signature,
      { builder with declared := builder.declared.insert signature })

def receive (event : Event) : Action ClassBuilder Bool := do
  match event with
  | .classHeader header =>
    expect .initial event
    modify ({ · with phase := .inClass, header := some header })
  | .methodHeader header =>
    expect .inClass event
    unless ← declare header.signature do
      throw (.malformed (.duplicateMethod header.signature))
    modify ({ · with phase := .inMethod, current := some ⟨header, #[]⟩ })
  | .instruction instruction =>
    expect .inMethod event
    -- Every reachable builder in this phase has an open method.
    if let some current := (← get).current then
      modify ({ · with current := some (current.push instruction) })
  | .methodEnd =>
    expect .inMethod event
    if let some current := (← get).current then
      modify fun builder =>
        { builder with methods := builder.methods.push current.close, current := none }
    modify ({ · with phase := .inClass })
  | .classEnd =>
    expect .inClass event
    modify ({ · with phase := .finished })
  return true

def finish (builder : ClassBuilder) : Except Error ClassFile :=
  match builder.phase, builder.header with
  | .finished, some header => .ok ⟨header, builder.methods.toList⟩
  | _, _ => .error (.malformed .unfinishedClass)

def sink {S : Type} : Sink (ClassBuilder × S) := ⟨fun event (builder, state) =>
  match receive event builder with
  | .ok kept builder => .ok kept (builder, state)
  | .error error builder => .error error (builder, state)⟩

end ClassBuilder

end LambdaLowering
