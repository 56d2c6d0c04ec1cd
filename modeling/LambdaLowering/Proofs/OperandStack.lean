import LambdaLowering.Instruction

/-! A typed operand-stack machine for straight-line code.

The machine knows every value by its origin and checks the type of what an instruction takes, so it
is stuck wherever a verifier would object. It writes down what it loads, calls and returns.
-/

set_option autoImplicit false

namespace LambdaLowering

inductive ValueKind where
  | int | long | float | double | reference
  deriving DecidableEq, Repr

namespace ValueKind

def width : ValueKind → Nat
  | .long | .double => 2
  | .int | .float | .reference => 1

def loadOpcode : ValueKind → Opcode
  | .int => .iload
  | .long => .lload
  | .float => .fload
  | .double => .dload
  | .reference => .aload

def returnOpcode : ValueKind → Opcode
  | .int => .ireturn
  | .long => .lreturn
  | .float => .freturn
  | .double => .dreturn
  | .reference => .areturn

theorem width_pos (kind : ValueKind) : 0 < kind.width := by
  cases kind <;> decide

end ValueKind

/-- The small integers are all computed with as int. -/
def FieldType.valueKind : FieldType → ValueKind
  | .primitive .long => .long
  | .primitive .float => .float
  | .primitive .double => .double
  | .primitive .boolean | .primitive .byte | .primitive .char | .primitive .short
  | .primitive .int => .int
  | .object _ | .array _ => .reference

inductive Value where
  | argument (position : Nat) (type : FieldType)
  /-- An object of the class, by its number among the objects made so far. -/
  | object (number : Nat) (owner : String)
  | answer (type : FieldType)
  deriving DecidableEq, Repr

def Value.type : Value → FieldType
  | .argument _ type | .answer type => type
  | .object _ owner => .object owner

def Value.kind (value : Value) : ValueKind := value.type.valueKind

inductive Observation where
  | loaded (opcode : Opcode) (slot : Nat) (value : Value)
  /-- A call with its operands, first one first, and what stays on the stack below them. -/
  | called (call : Instruction) (operands below : List Value)
  | returned (opcode : Opcode) (value : Option Value)
  deriving DecidableEq, Repr

structure Frame where
  /-- The local slots. The second slot of a long or a double holds nothing that can be read. -/
  slots : List (Option Value)
  stack : List Value
  /-- For every object made so far, whether its constructor has been called. -/
  objects : List Bool
  trace : List Observation := []
  returned : Bool := false
  deriving DecidableEq, Repr

def slotsOf (values : List Value) : List (Option Value) :=
  values.flatMap fun value => some value :: List.replicate (value.kind.width - 1) none

namespace Frame

/-- Only an object whose constructor has been called can be passed on. -/
def isReady (frame : Frame) : Value → Bool
  | .object number _ => frame.objects[number]? == some true
  | .argument _ _ | .answer _ => true

def observe (frame : Frame) (observation : Observation) : Frame :=
  { frame with trace := frame.trace ++ [observation] }

def load (frame : Frame) (opcode : Opcode) (slot : Nat) : Option Frame := do
  let value ← frame.slots[slot]?.join
  if opcode = value.kind.loadOpcode then
    some ({ frame with stack := value :: frame.stack }.observe (.loaded opcode slot value))
  else
    none

def allocate (frame : Frame) (owner : String) : Frame :=
  { frame with
    stack := .object frame.objects.length owner :: frame.stack
    objects := frame.objects ++ [false] }

def duplicate (frame : Frame) : Option Frame :=
  match frame.stack with
  | [] => none
  | value :: below =>
    if value.kind.width = 1 then some { frame with stack := value :: value :: below } else none

def takeOperands (frame : Frame) (params : List FieldType) : Option (List Value × Frame) :=
  let operands := (frame.stack.take params.length).reverse
  if operands.map Value.type = params ∧ operands.all frame.isReady then
    some (operands, { frame with stack := frame.stack.drop params.length })
  else
    none

/-- Take the receiver of a call off the stack. The first special call on a new object has to be one
of its own class, without a result, and constructs it. -/
def takeReceiver (frame : Frame) (opcode : Opcode) (owner : String) (result : ReturnType) :
    Option (Value × Frame) :=
  match frame.stack with
  | [] => none
  | receiver :: below =>
    let frame := { frame with stack := below }
    match receiver with
    | .object number made =>
      if frame.objects[number]? = some true then some (receiver, frame)
      else if frame.objects[number]? = some false ∧ opcode = .invokespecial ∧ made = owner ∧
          result = .void then
        some (receiver, { frame with objects := frame.objects.set number true })
      else none
    | _ => if receiver.kind = .reference then some (receiver, frame) else none

def push (frame : Frame) : ReturnType → Frame
  | .void => frame
  | .value type => { frame with stack := .answer type :: frame.stack }

/-- A static call takes no receiver. A call through an interface says so, and a virtual one does
not. -/
def invoke (frame : Frame) (opcode : Opcode) (owner name : String) (descriptor : MethodDescriptor)
    (ofInterface : Bool) : Option Frame := do
  let call : Instruction := .invoke opcode owner name descriptor ofInterface
  let (operands, rest) ← frame.takeOperands descriptor.params
  if opcode = .invokestatic then
    some ((rest.observe (.called call operands rest.stack)).push descriptor.result)
  else if opcode = .invokespecial ∨ opcode = .invokevirtual ∧ ofInterface = false ∨
      opcode = .invokeinterface ∧ ofInterface = true then
    let (receiver, rest) ← rest.takeReceiver opcode owner descriptor.result
    some ((rest.observe (.called call (receiver :: operands) rest.stack)).push descriptor.result)
  else
    none

/-- One opcode returns without a value, and the others each return values of one kind. -/
def leave (frame : Frame) (opcode : Opcode) : Option Frame :=
  if opcode = .voidReturn then
    some { frame.observe (.returned opcode none) with returned := true }
  else
    match frame.stack with
    | [] => none
    | value :: below =>
      if opcode = value.kind.returnOpcode ∧ frame.isReady value then
        some { frame.observe (.returned opcode (some value)) with stack := below, returned := true }
      else
        none

/-- Nothing runs after a return, and other instructions are unknown to the machine. -/
def step (frame : Frame) (instruction : Instruction) : Option Frame :=
  if frame.returned then none
  else
    match instruction with
    | .localVar opcode slot => frame.load opcode slot
    | .onType .newObject name => some (frame.allocate name)
    | .simple .dup => frame.duplicate
    | .simple opcode => frame.leave opcode
    | .invoke opcode owner name descriptor ofInterface =>
      frame.invoke opcode owner name descriptor ofInterface
    | _ => none

def run (frame : Frame) (code : List Instruction) : Option Frame := code.foldlM step frame

theorem run_append (frame : Frame) (first second : List Instruction) :
    frame.run (first ++ second) = (frame.run first).bind (·.run second) :=
  List.foldlM_append

theorem run_cons (frame : Frame) (instruction : Instruction) (code : List Instruction) :
    frame.run (instruction :: code) = (frame.step instruction).bind (·.run code) :=
  List.foldlM_cons

end Frame

end LambdaLowering
