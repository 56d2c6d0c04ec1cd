import LambdaLowering.Accessor
import LambdaLowering.Proofs.OperandStack

/-! Bodies of accessors on the operand-stack machine.

The shape of an accessor's descriptor and the code of its body are made apart from each other. Here
both are written down once more, from what each kind of method needs and in the widths and opcodes
of the machine. Code of this form never gets stuck: it calls the target with its own arguments and
gives the answer back. The accessors then turn out to have this form.
-/

set_option autoImplicit false

namespace LambdaLowering

/-! ## What forwarding is -/

def argumentsFor (params : List FieldType) : List Value := params.mapIdx .argument

def totalWidth : List FieldType → Nat
  | [] => 0
  | type :: types => type.valueKind.width + totalWidth types

def firstSlot (params : List FieldType) (position : Nat) : Nat :=
  totalWidth (params.take position)

/-- Every argument is loaded once, in order, from its first slot and with the opcode of its type. -/
def argumentLoads (params : List FieldType) : List Observation :=
  params.mapIdx fun position type =>
    .loaded type.valueKind.loadOpcode (firstSlot params position) (.argument position type)

def madeObject (target : MethodRef) (number : Nat) : List Value :=
  if target.kind = .constructor then [.object number target.owner] else []

def operandTypes (host : HostClass) (target : MethodRef) : List FieldType :=
  match target.kind with
  | .static => target.descriptor.params
  | .constructor => .object target.owner :: target.descriptor.params
  | .virtual | .special | .interface => .object host.name :: target.descriptor.params

def directCall (target : MethodRef) : Instruction :=
  match target.kind with
  | .static => .invoke .invokestatic target.owner target.name target.descriptor false
  | .constructor => .invoke .invokespecial target.owner target.name target.descriptor false
  | .special => .invoke .invokespecial target.owner target.name target.descriptor false
  | .virtual => .invoke .invokevirtual target.owner target.name target.descriptor false
  | .interface => .invoke .invokeinterface target.owner target.name target.descriptor true

def ReturnType.type? : ReturnType → Option FieldType
  | .void => none
  | .value type => some type

/-- What is given back: the object that was made, or the answer of the target. -/
def forwardedResult (target : MethodRef) (number : Nat) : Option Value :=
  if target.kind = .constructor then some (.object number target.owner)
  else target.descriptor.result.type?.map .answer

def returnOpcodeFor : Option FieldType → Opcode
  | none => .voidReturn
  | some type => type.valueKind.returnOpcode

/-- Called with parameters of these types, on any stack of a caller and beside any objects, the code
runs to its return. It loads every argument once, in order and from its first slot. The call of the
target then consumes just the arguments, for a constructor the new object first, which lies below
them a second time. What is returned was all that lay above the stack of the caller. -/
def Forwards (target : MethodRef) (params : List FieldType) (code : List Instruction) : Prop :=
  ∀ (caller : List Value) (objects : List Bool),
    let made := madeObject target objects.length
    let answer := forwardedResult target objects.length
    ∃ last, Frame.run ⟨slotsOf (argumentsFor params), caller, objects, [], false⟩ code = some last ∧
      last.trace = argumentLoads params ++
        [.called (directCall target) (made ++ argumentsFor params) (made ++ caller),
          .returned (returnOpcodeFor (answer.map Value.type)) answer] ∧
      last.stack = caller

/-! ## Code that forwards -/

/-- The descriptor of a static method that can stand in for the target: it takes what the call of
the target takes, the receiver of an instance method first, and returns the object that a
constructor makes. -/
def forwardingDescriptor (host : HostClass) (target : MethodRef) : MethodDescriptor :=
  match target.kind with
  | .static => target.descriptor
  | .constructor => ⟨target.descriptor.params, .value (.object target.owner)⟩
  | .virtual | .special | .interface =>
    ⟨.object host.name :: target.descriptor.params, target.descriptor.result⟩

def loadCode (slot : Nat) (types : List FieldType) : List Instruction :=
  types.mapIdx fun position type =>
    .localVar type.valueKind.loadOpcode (slot + firstSlot types position)

def allocationCode (target : MethodRef) : List Instruction :=
  if target.kind = .constructor then [.onType .newObject target.owner, .simple .dup] else []

def forwardingCode (host : HostClass) (target : MethodRef) : List Instruction :=
  let descriptor := forwardingDescriptor host target
  allocationCode target ++ loadCode 0 descriptor.params ++
    [directCall target, .simple (returnOpcodeFor descriptor.result.type?)]

theorem totalWidth_append (first second : List FieldType) :
    totalWidth (first ++ second) = totalWidth first + totalWidth second := by
  induction first with
  | nil => exact (Nat.zero_add _).symm
  | cons type types ih => rw [List.cons_append, totalWidth, totalWidth, ih, Nat.add_assoc]

theorem firstSlot_zero (types : List FieldType) : firstSlot types 0 = 0 := rfl

theorem firstSlot_cons_succ (type : FieldType) (types : List FieldType) (position : Nat) :
    firstSlot (type :: types) (position + 1) = type.valueKind.width + firstSlot types position := by
  simp [firstSlot, totalWidth]

theorem loadCode_cons (slot : Nat) (type : FieldType) (types : List FieldType) :
    loadCode slot (type :: types) =
      .localVar type.valueKind.loadOpcode slot :: loadCode (slot + type.valueKind.width) types := by
  simp [loadCode, List.mapIdx_cons, firstSlot_zero, firstSlot_cons_succ, Nat.add_assoc]

namespace Frame

def argumentsFrom (position : Nat) (types : List FieldType) : List Value :=
  types.mapIdx fun i => .argument (position + i)

def loadsFrom (position slot : Nat) (types : List FieldType) : List Observation :=
  types.mapIdx fun i type =>
    .loaded type.valueKind.loadOpcode (slot + firstSlot types i) (.argument (position + i) type)

theorem argumentsFrom_cons (position : Nat) (type : FieldType) (types : List FieldType) :
    argumentsFrom position (type :: types) =
      .argument position type :: argumentsFrom (position + 1) types := by
  simp [argumentsFrom, List.mapIdx_cons, Nat.add_assoc, Nat.add_comm 1]

theorem loadsFrom_cons (position slot : Nat) (type : FieldType) (types : List FieldType) :
    loadsFrom position slot (type :: types) =
      .loaded type.valueKind.loadOpcode slot (.argument position type) ::
        loadsFrom (position + 1) (slot + type.valueKind.width) types := by
  simp [loadsFrom, List.mapIdx_cons, firstSlot_zero, firstSlot_cons_succ, Nat.add_assoc,
    Nat.add_comm 1]

theorem argumentsFrom_zero (params : List FieldType) :
    argumentsFrom 0 params = argumentsFor params := by
  simp [argumentsFrom, argumentsFor]

theorem loadsFrom_zero (params : List FieldType) : loadsFrom 0 0 params = argumentLoads params := by
  simp [loadsFrom, argumentLoads]

theorem slots_of_drop {slots : List (Option Value)} {slot : Nat} {value : Value}
    {values : List Value} (laid : slots.drop slot = slotsOf (value :: values)) :
    slots[slot]? = some (some value) ∧ slots.drop (slot + value.kind.width) = slotsOf values := by
  have first : slotsOf (value :: values) =
      some value :: (List.replicate (value.kind.width - 1) none ++ slotsOf values) := rfl
  have wide := value.kind.width_pos
  constructor
  · have head := congrArg (·[0]?) laid
    simpa [first, List.getElem?_drop] using head
  · have tail := congrArg (List.drop value.kind.width) laid
    obtain ⟨more, width⟩ : ∃ more, value.kind.width = more + 1 := ⟨value.kind.width - 1, by omega⟩
    rw [List.drop_drop, first, width] at tail
    simpa [width] using tail

theorem load_of_slot {frame : Frame} {slot position : Nat} {type : FieldType}
    (laid : frame.slots[slot]? = some (some (.argument position type))) :
    frame.load type.valueKind.loadOpcode slot =
      some ({ frame with stack := .argument position type :: frame.stack }.observe
        (.loaded type.valueKind.loadOpcode slot (.argument position type))) := by
  simp [load, laid, Value.kind, Value.type]

/-- The run of the loads. Its invariant: the slots that are not read yet hold the arguments that
are not loaded yet. -/
theorem run_loadCode {frame : Frame} (position slot : Nat) {types : List FieldType}
    (running : frame.returned = false)
    (laid : frame.slots.drop slot = slotsOf (argumentsFrom position types)) :
    frame.run (loadCode slot types) = some { frame with
      stack := (argumentsFrom position types).reverse ++ frame.stack
      trace := frame.trace ++ loadsFrom position slot types } := by
  induction types generalizing frame position slot with
  | nil => simp [loadCode, run, argumentsFrom, loadsFrom]
  | cons type types ih =>
    rw [argumentsFrom_cons] at laid
    -- The load reads the head of the unread slots and leaves their tail, of whatever width.
    obtain ⟨here, rest⟩ := slots_of_drop laid
    have stepped : frame.step (.localVar type.valueKind.loadOpcode slot) = _ :=
      (if_neg (by simp [running])).trans (load_of_slot here)
    rw [loadCode_cons, run_cons, stepped, Option.bind_some]
    refine (ih (position + 1) (slot + type.valueKind.width) ?_ ?_).trans ?_
    · exact running
    · exact rest
    · simp [observe, argumentsFrom_cons, loadsFrom_cons]

theorem map_type_argumentsFrom (position : Nat) (types : List FieldType) :
    (argumentsFrom position types).map Value.type = types := by
  induction types generalizing position with
  | nil => rfl
  | cons type types ih => rw [argumentsFrom_cons, List.map_cons, ih]; rfl

theorem isReady_argumentsFrom (frame : Frame) (position : Nat) (types : List FieldType) :
    (argumentsFrom position types).all frame.isReady = true := by
  induction types generalizing position with
  | nil => rfl
  | cons type types ih => rw [argumentsFrom_cons, List.all_cons, ih]; rfl

theorem takeOperands_arguments {frame : Frame} {position : Nat} {types : List FieldType}
    {below : List Value} (top : frame.stack = (argumentsFrom position types).reverse ++ below) :
    frame.takeOperands types =
      some (argumentsFrom position types, { frame with stack := below }) := by
  have size : (argumentsFrom position types).reverse.length = types.length := by
    simp [argumentsFrom]
  have operands : frame.stack.take types.length = (argumentsFrom position types).reverse := by
    rw [top, ← size, List.take_left]
  have rest : frame.stack.drop types.length = below := by
    rw [top, ← size, List.drop_left]
  rw [takeOperands, operands, rest, List.reverse_reverse]
  exact if_pos ⟨map_type_argumentsFrom position types, isReady_argumentsFrom frame position types⟩

/-! ## The call -/

theorem step_call_static {frame : Frame} {target : MethodRef} {below : List Value}
    (running : frame.returned = false) (kind : target.kind = .static)
    (top : frame.stack = (argumentsFrom 0 target.descriptor.params).reverse ++ below) :
    frame.step (directCall target) = some (({ frame with stack := below }.observe
      (.called (directCall target) (argumentsFrom 0 target.descriptor.params) below)).push
        target.descriptor.result) := by
  have taken := takeOperands_arguments top
  simp [step, running, directCall, invoke, taken, kind]

theorem step_call_instance {frame : Frame} {target : MethodRef} {receiver : String}
    {below : List Value} (running : frame.returned = false)
    (kind : target.kind = .virtual ∨ target.kind = .special ∨ target.kind = .interface)
    (top : frame.stack =
      (argumentsFrom 0 (.object receiver :: target.descriptor.params)).reverse ++ below) :
    frame.step (directCall target) = some (({ frame with stack := below }.observe
      (.called (directCall target) (argumentsFrom 0 (.object receiver :: target.descriptor.params))
        below)).push target.descriptor.result) := by
  rw [argumentsFrom_cons, List.reverse_cons, List.append_assoc, List.singleton_append] at top
  have taken := takeOperands_arguments top
  -- The three kinds differ in opcode and flag, and the machine asks the same of all of them.
  rcases kind with kind | kind | kind <;>
    simp [step, running, directCall, invoke, taken, kind, takeReceiver, Value.kind, Value.type,
      FieldType.valueKind, argumentsFrom_cons]

theorem step_call_constructor {frame : Frame} {target : MethodRef} {number : Nat}
    {below : List Value} (running : frame.returned = false) (kind : target.kind = .constructor)
    (void : target.descriptor.result = .void) (new : frame.objects[number]? = some false)
    (top : frame.stack = (argumentsFrom 0 target.descriptor.params).reverse ++
      .object number target.owner :: below) :
    frame.step (directCall target) = some ({ frame with
      stack := below, objects := frame.objects.set number true }.observe
        (.called (directCall target)
          (.object number target.owner :: argumentsFrom 0 target.descriptor.params) below)) := by
  have taken := takeOperands_arguments top
  simp [step, running, directCall, invoke, taken, kind, takeReceiver, new, void, push]

theorem push_stack (frame : Frame) (result : ReturnType) :
    (frame.push result).stack = (result.type?.map .answer).toList ++ frame.stack := by
  cases result <;> rfl

theorem push_trace (frame : Frame) (result : ReturnType) :
    (frame.push result).trace = frame.trace := by
  cases result <;> rfl

theorem push_returned (frame : Frame) (result : ReturnType) :
    (frame.push result).returned = frame.returned := by
  cases result <;> rfl

theorem isReady_answer (frame : Frame) (result : ReturnType) :
    ∀ value ∈ result.type?.map .answer, frame.isReady value = true := by
  cases result with
  | void => simp [ReturnType.type?]
  | value type => simp [ReturnType.type?, isReady]

theorem step_call (frame : Frame) (host : HostClass) {target : MethodRef} (number : Nat)
    (caller : List Value) (running : frame.returned = false)
    (constructs : target.kind = .constructor → target.descriptor.result = .void)
    (new : target.kind = .constructor → frame.objects[number]? = some false)
    (top : frame.stack = (argumentsFrom 0 (forwardingDescriptor host target).params).reverse ++
      (madeObject target number ++ (madeObject target number ++ caller))) :
    ∃ after, frame.step (directCall target) = some after ∧ after.returned = false ∧
      after.stack = (forwardedResult target number).toList ++ caller ∧
      after.trace = frame.trace ++ [.called (directCall target)
        (madeObject target number ++ argumentsFrom 0 (forwardingDescriptor host target).params)
        (madeObject target number ++ caller)] ∧
      ∀ value ∈ forwardedResult target number, after.isReady value = true := by
  by_cases kind : target.kind = .constructor
  · -- The answer is the object itself, which the call has made ready.
    have params : (forwardingDescriptor host target).params = target.descriptor.params := by
      simp [forwardingDescriptor, kind]
    simp only [madeObject, kind, if_true, params, List.singleton_append] at top ⊢
    refine ⟨_, step_call_constructor running kind (constructs kind) (new kind) top, running, ?_⟩
    have inside : number < frame.objects.length := (List.getElem?_eq_some_iff.mp (new kind)).1
    simp [forwardedResult, kind, observe, isReady, inside]
  · -- Neither a static nor an instance call leaves anything of its own below its answer.
    simp only [madeObject, kind, if_false, List.nil_append] at top ⊢
    have called : frame.step (directCall target) = some (({ frame with stack := caller }.observe
        (.called (directCall target) (argumentsFrom 0 (forwardingDescriptor host target).params)
          caller)).push target.descriptor.result) := by
      cases same : target.kind with
      | constructor => exact absurd same kind
      | static =>
        simp only [forwardingDescriptor, same] at top ⊢
        exact step_call_static running same top
      | virtual =>
        simp only [forwardingDescriptor, same] at top ⊢
        exact step_call_instance running (by simp [same]) top
      | special =>
        simp only [forwardingDescriptor, same] at top ⊢
        exact step_call_instance running (by simp [same]) top
      | interface =>
        simp only [forwardingDescriptor, same] at top ⊢
        exact step_call_instance running (by simp [same]) top
    refine ⟨_, called, ?_, ?_, ?_, ?_⟩
    · rw [push_returned]; exact running
    · rw [push_stack, forwardedResult, if_neg kind]; rfl
    · rw [push_trace]; rfl
    · rw [forwardedResult, if_neg kind]
      exact isReady_answer _ _

/-! ## The return -/

theorem returnOpcode_ne_voidReturn (kind : ValueKind) : kind.returnOpcode ≠ .voidReturn := by
  cases kind <;> decide

theorem step_returnOpcodeFor {frame : Frame} (running : frame.returned = false)
    (type? : Option FieldType) :
    frame.step (.simple (returnOpcodeFor type?)) = frame.leave (returnOpcodeFor type?) := by
  cases type? with
  | none => simp [step, running, returnOpcodeFor]
  | some type =>
    cases kind : type.valueKind <;>
      simp [step, running, returnOpcodeFor, kind, ValueKind.returnOpcode]

theorem leave_result {frame : Frame} {value : Option Value} {below : List Value}
    (top : frame.stack = value.toList ++ below) (ready : ∀ v ∈ value, frame.isReady v = true) :
    frame.leave (returnOpcodeFor (value.map Value.type)) =
      some { frame.observe (.returned (returnOpcodeFor (value.map Value.type)) value) with
        stack := below, returned := true } := by
  cases value with
  | none =>
    have same : frame.stack = below := top
    simp [leave, returnOpcodeFor, observe, ← same]
  | some v =>
    have valued := returnOpcode_ne_voidReturn v.type.valueKind
    simp [leave, returnOpcodeFor, valued, top, Value.kind, ready v rfl, observe]

/-! ## The whole code -/

theorem run_allocationCode {frame : Frame} (running : frame.returned = false) (target : MethodRef) :
    frame.run (allocationCode target) = some { frame with
      stack := madeObject target frame.objects.length ++
        madeObject target frame.objects.length ++ frame.stack
      objects := frame.objects ++ if target.kind = .constructor then [false] else [] } := by
  by_cases kind : target.kind = .constructor
  · simp [allocationCode, madeObject, kind, run, step, running, allocate, duplicate, Value.kind,
      Value.type, FieldType.valueKind, ValueKind.width]
  · simp [allocationCode, madeObject, kind, run]

end Frame

theorem map_type_operands (host : HostClass) (target : MethodRef) (number : Nat) :
    (madeObject target number ++ argumentsFor (forwardingDescriptor host target).params).map
        Value.type = operandTypes host target := by
  rw [← Frame.argumentsFrom_zero, List.map_append, Frame.map_type_argumentsFrom]
  cases kind : target.kind <;>
    simp [madeObject, operandTypes, forwardingDescriptor, kind, Value.type]

theorem map_type_forwardedResult (host : HostClass) (target : MethodRef) (number : Nat) :
    (forwardedResult target number).map Value.type =
      (forwardingDescriptor host target).result.type? := by
  have answer : ∀ result : ReturnType, (result.type?.map Value.answer).map Value.type =
      result.type? := fun result => by cases result <;> rfl
  cases kind : target.kind <;>
    simp only [forwardedResult, forwardingDescriptor, kind, reduceCtorEq, if_false, if_true, answer]
  rfl

theorem forwards_forwardingCode (host : HostClass) {target : MethodRef}
    (constructs : target.kind = .constructor → target.descriptor.result = .void) :
    Forwards target (forwardingDescriptor host target).params (forwardingCode host target) := by
  intro caller objects made answer
  let params := (forwardingDescriptor host target).params
  -- The code runs in four parts: the object is made, the arguments are loaded, the target is called
  -- and its answer returned.
  let start : Frame := ⟨slotsOf (argumentsFor params), caller, objects, [], false⟩
  let allocated : Frame := { start with
    stack := made ++ made ++ caller
    objects := objects ++ if target.kind = .constructor then [false] else [] }
  let loaded : Frame := { allocated with
    stack := (argumentsFor params).reverse ++ (made ++ made ++ caller)
    trace := argumentLoads params }
  have allocation : start.run (allocationCode target) = some allocated :=
    Frame.run_allocationCode rfl target
  have loads : allocated.run (loadCode 0 params) = some loaded := by
    have laid : allocated.slots.drop 0 = slotsOf (Frame.argumentsFrom 0 params) := by
      rw [Frame.argumentsFrom_zero]
      rfl
    have run := Frame.run_loadCode 0 0 (Eq.refl allocated.returned) laid
    rwa [Frame.argumentsFrom_zero, Frame.loadsFrom_zero] at run
  have top : loaded.stack =
      (Frame.argumentsFrom 0 params).reverse ++ (made ++ (made ++ caller)) := by
    rw [Frame.argumentsFrom_zero, ← List.append_assoc made]
  obtain ⟨after, called, running, stack, trace, ready⟩ := Frame.step_call loaded host objects.length
    caller rfl constructs (fun kind => by simp [loaded, allocated, kind]) top
  have left := Frame.leave_result stack ready
  let last : Frame :=
    { after.observe (.returned (returnOpcodeFor (answer.map Value.type)) answer) with
      stack := caller, returned := true }
  have ran : start.run (forwardingCode host target) = some last := by
    rw [forwardingCode, ← map_type_forwardedResult host target objects.length, Frame.run_append,
      Frame.run_append, allocation, Option.bind_some, loads, Option.bind_some, Frame.run_cons,
      called, Option.bind_some, Frame.run_cons, Frame.step_returnOpcodeFor running, left]
    rfl
  refine ⟨last, ran, ?_, rfl⟩
  rw [Frame.argumentsFrom_zero] at trace
  change after.trace ++ [_] = _
  rw [trace, List.append_assoc]
  rfl

/-! ## Accessors -/

theorem FieldType.slots_eq_width (type : FieldType) : type.slots = type.valueKind.width := by
  cases type with
  | primitive p => cases p <;> rfl
  | object name => rfl
  | array component => rfl

theorem FieldType.loadOpcode_eq (type : FieldType) :
    type.loadOpcode = type.valueKind.loadOpcode := by
  cases type with
  | primitive p => cases p <;> rfl
  | object name => rfl
  | array component => rfl

theorem ReturnType.returnOpcode_eq (result : ReturnType) :
    result.returnOpcode = returnOpcodeFor result.type? := by
  cases result with
  | void => rfl
  | value type =>
    cases type with
    | primitive p => cases p <;> rfl
    | object name => rfl
    | array component => rfl

theorem Instruction.call_eq_directCall (target : MethodRef) : call target = directCall target := by
  cases kind : target.kind <;> simp [call, directCall, kind, ReferenceKind.invokeOpcode]

theorem firstSlot_add_le {params : List FieldType} {position : Nat}
    (inside : position < params.length) :
    firstSlot params position + params[position].valueKind.width ≤ totalWidth params := by
  have split : params = params.take position ++ params[position] :: params.drop (position + 1) := by
    simp
  have total := congrArg totalWidth split
  rw [totalWidth_append, totalWidth, ← firstSlot] at total
  omega

namespace Accessor

theorem descriptorFor_eq (host : HostClass) (target : MethodRef) :
    descriptorFor host target = forwardingDescriptor host target := by
  cases kind : target.kind <;>
    simp [descriptorFor, forwardingDescriptor, kind, MethodDescriptor.returning,
      MethodDescriptor.withLeading]

theorem loads_eq_loadCode (slot : Nat) (types : List FieldType) :
    loads slot types = loadCode slot types := by
  induction types generalizing slot with
  | nil => rfl
  | cons type types ih =>
    rw [loads, loadCode_cons, ih, FieldType.loadOpcode_eq, FieldType.slots_eq_width]

theorem body_eq_forwardingCode {host : HostClass} {accessor : Accessor}
    (shaped : accessor.method.descriptor = descriptorFor host accessor.target) :
    accessor.body = forwardingCode host accessor.target := by
  rw [body, shaped, descriptorFor_eq, loads_eq_loadCode, Instruction.call_eq_directCall,
    ReturnType.returnOpcode_eq]
  rfl

/-- The body of an accessor that has the shape for its target forwards to it. What the call consumes
are values of the types that the target takes, and what is returned has the type that the accessor
declares. All slots that are read have numbers of sixteen bits. -/
theorem body_forwards (host : HostClass) (accessor : Accessor)
    (constructs : accessor.target.kind = .constructor →
      accessor.target.descriptor.result = .void)
    (shaped : accessor.method.descriptor = descriptorFor host accessor.target)
    (fits : totalWidth accessor.method.descriptor.params ≤ 65535) :
    let params := accessor.method.descriptor.params
    let result := accessor.method.descriptor.result
    Forwards accessor.target params accessor.body ∧
      (∀ number, (madeObject accessor.target number ++ argumentsFor params).map Value.type =
        operandTypes host accessor.target) ∧
      (∀ number, (forwardedResult accessor.target number).map Value.type = result.type?) ∧
      ∀ position < params.length, firstSlot params position < 65536 := by
  intro params result
  have shape : accessor.method.descriptor = forwardingDescriptor host accessor.target := by
    rw [shaped, descriptorFor_eq]
  have sameParams : params = (forwardingDescriptor host accessor.target).params := by rw [← shape]
  have sameResult : result = (forwardingDescriptor host accessor.target).result := by rw [← shape]
  refine ⟨?_, ?_, ?_, ?_⟩
  · rw [sameParams, body_eq_forwardingCode shaped]
    exact forwards_forwardingCode host constructs
  · rw [sameParams]
    exact map_type_operands host accessor.target
  · rw [sameResult]
    exact map_type_forwardedResult host accessor.target
  · intro position inside
    have within := firstSlot_add_le inside
    have wide := params[position].valueKind.width_pos
    have total : totalWidth params ≤ 65535 := fits
    omega

/-- A long takes two slots, so the reference after it is loaded from slot two. -/
theorem body_forwards_constructor :
    let host : HostClass := ⟨.none, "a/M"⟩
    let target : MethodRef :=
      ⟨.constructor, "a/P", "<init>", ⟨[.primitive .long, .object "a/Q"], .void⟩⟩
    let accessor := numbered 0 host target
    let arguments : List Value := [.argument 0 (.primitive .long), .argument 1 (.object "a/Q")]
    (target.kind = .constructor → target.descriptor.result = .void) ∧
    accessor.method.descriptor = descriptorFor host target ∧
    totalWidth accessor.method.descriptor.params ≤ 65535 ∧
    ∃ last, Frame.run ⟨slotsOf arguments, [.answer (.primitive .int)], [], [], false⟩
        accessor.body = some last ∧
      last.trace = [.loaded .lload 0 (.argument 0 (.primitive .long)),
        .loaded .aload 2 (.argument 1 (.object "a/Q")),
        .called (.invoke .invokespecial "a/P" "<init>"
            ⟨[.primitive .long, .object "a/Q"], .void⟩ false)
          (.object 0 "a/P" :: arguments) [.object 0 "a/P", .answer (.primitive .int)],
        .returned .areturn (some (.object 0 "a/P"))] ∧
      last.stack = [.answer (.primitive .int)] := by
  intro host target accessor arguments
  have forwards := body_forwards host accessor (fun _ => rfl) rfl (by decide)
  exact ⟨fun _ => rfl, rfl, by decide, forwards.1 [.answer (.primitive .int)] []⟩

end Accessor

/-! ## Methods that forward -/

/-- A static method of the host that stands in for the target. Slots have numbers of sixteen bits,
so nothing is said of parameters that take more of them. -/
structure Method.ForwardsTo (method : Method) (host : HostClass) (target : MethodRef) : Prop where
  access : method.header.access = .ofFlags [.isStatic, .isSynthetic]
  descriptor : method.header.descriptor = forwardingDescriptor host target
  code : totalWidth method.header.descriptor.params ≤ 65535 →
    method.code = forwardingCode host target
  forwards : (target.kind = .constructor → target.descriptor.result = .void) →
    totalWidth method.header.descriptor.params ≤ 65535 →
      Forwards target method.header.descriptor.params method.code

theorem Accessor.declaration_forwardsTo {host : HostClass} {accessor : Accessor}
    (shaped : accessor.method.descriptor = descriptorFor host accessor.target) :
    (accessor.declaration hostAccess).ForwardsTo host accessor.target where
  access := rfl
  descriptor := shaped.trans (descriptorFor_eq host accessor.target)
  code _ := body_eq_forwardingCode shaped
  forwards constructs _ := by
    have shape := shaped.trans (descriptorFor_eq host accessor.target)
    have code := body_eq_forwardingCode shaped
    have forwards := forwards_forwardingCode host constructs
    rwa [← shape, ← code] at forwards

theorem Accessor.numbered_forwardsTo {host : HostClass} {target : MethodRef} {number : Nat}
    {accessor : Accessor} (numbered : accessor = .numbered number host target) :
    (accessor.declaration hostAccess).ForwardsTo host accessor.target := by
  subst numbered
  exact declaration_forwardsTo rfl

end LambdaLowering
