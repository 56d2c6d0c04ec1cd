import LambdaLowering.Descriptor

/-! Reading descriptor texts.

A reader takes the characters still unread and gives back the ones it leaves. A fault that has a
position carries the unread text there, so that positions need no counting while reading.
-/

set_option autoImplicit false

namespace LambdaLowering

inductive DescriptorFault where
  | truncated
  | unterminatedName
  | invalidName (name : String)
  | tooManyDimensions (count : Nat)
  | unexpected (offender : Char) (following : List Char)
  | noParameterList
  | trailing (unread : List Char)
  deriving DecidableEq, Repr

structure DescriptorError where
  text : String
  fault : DescriptorFault
  deriving DecidableEq, Repr

namespace Descriptor

def maxDimensions : Nat := 255

/-- What a class name inside a descriptor must not contain, besides the semicolon that ends it. -/
def isReserved (c : Char) : Bool := c == '.' || c == '[' || c == '(' || c == ')'

def isValidName (name : List Char) : Bool := !name.isEmpty && !name.any isReserved

def readName (unread : List Char) : Except DescriptorFault (String × List Char) :=
  let name := unread.takeWhile (· != ';')
  match unread.dropWhile (· != ';') with
  | [] => .error .unterminatedName
  | _ :: rest =>
    if isValidName name then .ok (String.ofList name, rest)
    else .error (.invalidName (String.ofList name))

def readBase : List Char → Except DescriptorFault (FieldType × List Char)
  | [] => .error .truncated
  | c :: rest =>
    if c == 'L' then do
      let (name, rest) ← readName rest
      return (.object name, rest)
    else
      match Primitive.ofCode? c with
      | some p => .ok (.primitive p, rest)
      | none => .error (.unexpected c rest)

def readType (unread : List Char) : Except DescriptorFault (FieldType × List Char) :=
  -- All brackets are counted before the type under them is looked at.
  let count := (unread.takeWhile (· == '[')).length
  if count > maxDimensions then .error (.tooManyDimensions count)
  else do
    let (type, rest) ← readBase (unread.dropWhile (· == '['))
    return (.arrayOf count type, rest)

def readReturn : List Char → Except DescriptorFault (ReturnType × List Char)
  | 'V' :: rest => .ok (.void, rest)
  | unread => do
    let (type, rest) ← readType unread
    return (.value type, rest)

theorem readName_length {unread rest : List Char} {name : String}
    (read : readName unread = .ok (name, rest)) : rest.length < unread.length := by
  simp only [readName] at read
  split at read
  · simp at read
  next c tail same =>
    split at read
    · simp only [Except.ok.injEq, Prod.mk.injEq] at read
      have whole :=
        congrArg List.length (List.takeWhile_append_dropWhile (p := (· != ';')) (l := unread))
      rw [same, List.length_append, List.length_cons, read.2] at whole
      omega
    · simp at read

theorem readBase_length {unread rest : List Char} {type : FieldType}
    (read : readBase unread = .ok (type, rest)) : rest.length < unread.length := by
  cases unread with
  | nil => simp [readBase] at read
  | cons c tail =>
    simp only [readBase] at read
    split at read
    · cases named : readName tail with
      | error fault => simp [named, bind, Except.bind] at read
      | ok result =>
        obtain ⟨name, left⟩ := result
        simp only [named, bind, Except.bind, pure, Except.pure, Except.ok.injEq, Prod.mk.injEq]
          at read
        have shorter := readName_length named
        rw [read.2] at shorter
        simp only [List.length_cons]
        omega
    · split at read
      · simp only [Except.ok.injEq, Prod.mk.injEq] at read
        simp [read.2]
      · simp at read

theorem readType_length {unread rest : List Char} {type : FieldType}
    (read : readType unread = .ok (type, rest)) : rest.length < unread.length := by
  simp only [readType] at read
  split at read
  · simp at read
  · cases based : readBase (unread.dropWhile (· == '[')) with
    | error fault => simp [based, bind, Except.bind] at read
    | ok result =>
      obtain ⟨base, left⟩ := result
      simp only [based, bind, Except.bind, pure, Except.pure, Except.ok.injEq, Prod.mk.injEq]
        at read
      have shorter := readBase_length based
      have suffix := (List.dropWhile_suffix (l := unread) (· == '[')).length_le
      rw [read.2] at shorter
      omega

def readParams : List Char → Except DescriptorFault (List FieldType × List Char)
  | ')' :: rest => .ok ([], rest)
  | unread =>
    match read : readType unread with
    | .error fault => .error fault
    | .ok (type, rest) =>
      have := readType_length read
      (readParams rest).map fun (types, rest) => (type :: types, rest)
termination_by unread => unread.length

def readMethod : List Char → Except DescriptorFault (MethodDescriptor × List Char)
  | [] => .error .truncated
  | '(' :: rest => do
    let (params, rest) ← readParams rest
    let (result, rest) ← readReturn rest
    return (⟨params, result⟩, rest)
  | _ => .error .noParameterList

def readWhole {α : Type} (reader : List Char → Except DescriptorFault (α × List Char))
    (text : String) : Except DescriptorError α :=
  match reader text.toList with
  | .error fault => .error ⟨text, fault⟩
  | .ok (value, []) => .ok value
  | .ok (_, unread) => .error ⟨text, .trailing unread⟩

end Descriptor

def FieldType.parse (text : String) : Except DescriptorError FieldType :=
  Descriptor.readWhole Descriptor.readType text

def MethodDescriptor.parse (text : String) : Except DescriptorError MethodDescriptor :=
  Descriptor.readWhole Descriptor.readMethod text

namespace DescriptorError

def offset (error : DescriptorError) (unread : List Char) : Nat :=
  error.text.utf8ByteSize - (String.ofList unread).utf8ByteSize

/-- The first byte of a character's UTF-8 form, as the character of that number. -/
def leadByte (c : Char) : Char :=
  Char.ofNat ((String.utf8EncodeChar c).headD 0).toNat

def message (error : DescriptorError) : String :=
  match error.text, error.fault with
  | text, .truncated => s!"Descriptor '{text}' ends unexpectedly"
  | text, .unterminatedName => s!"Unterminated class name in descriptor '{text}'"
  | text, .invalidName name => s!"Invalid class name '{name}' in descriptor '{text}'"
  | text, .tooManyDimensions count => s!"Descriptor '{text}' declares {count} array dimensions"
  | text, .unexpected offender following =>
    let shown := leadByte offender
    let position := error.offset (offender :: following)
    s!"Unexpected '{shown}' at offset {position} of descriptor '{text}'"
  | text, .noParameterList => s!"Method descriptor '{text}' does not start with '('"
  | text, .trailing unread =>
    let position := error.offset unread
    s!"Trailing characters in descriptor '{text}' at offset {position}"

end DescriptorError

end LambdaLowering
