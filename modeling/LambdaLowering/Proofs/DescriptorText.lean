import LambdaLowering.Descriptor.Parser
import Mathlib.Data.List.TakeWhile

/-! Descriptor texts and descriptor values.

Every reader takes exactly the characters that the printer writes for a well-formed value, and
leaves the rest. A text is therefore accepted for one value alone, and every well-formed value is
the value of its own text.
-/

set_option autoImplicit false

namespace LambdaLowering

/-- A class name that a descriptor can spell between an `L` and a semicolon. -/
structure ClassName.WellFormed (name : String) : Prop where
  nonempty : name ≠ ""
  unreserved : ∀ c ∈ name.toList, c ∉ ['.', ';', '[', '(', ')']

def FieldType.NamesWellFormed : FieldType → Prop
  | .primitive _ => True
  | .object name => ClassName.WellFormed name
  | .array component => component.NamesWellFormed

structure FieldType.WellFormed (type : FieldType) : Prop where
  names : type.NamesWellFormed
  dimensions : type.dimensions ≤ 255

def ReturnType.WellFormed : ReturnType → Prop
  | .void => True
  | .value type => type.WellFormed

structure MethodDescriptor.WellFormed (descriptor : MethodDescriptor) : Prop where
  params : ∀ type ∈ descriptor.params, type.WellFormed
  result : descriptor.result.WellFormed

/-! ## Types and their array brackets -/

namespace FieldType

theorem toChars_arrayOf (count : Nat) (type : FieldType) :
    (arrayOf count type).toChars = List.replicate count '[' ++ type.toChars := by
  induction count with
  | zero => rfl
  | succ count ih => simp only [arrayOf, toChars, ih, List.replicate_succ, List.cons_append]

theorem dimensions_arrayOf (count : Nat) (type : FieldType) :
    (arrayOf count type).dimensions = type.dimensions + count := by
  induction count with
  | zero => rfl
  | succ count ih => simp only [arrayOf, dimensions, ih, Nat.add_assoc]

theorem namesWellFormed_arrayOf (count : Nat) (type : FieldType) :
    (arrayOf count type).NamesWellFormed ↔ type.NamesWellFormed := by
  induction count with
  | zero => rfl
  | succ count ih => exact ih

theorem arrayOf_dimensions_base (type : FieldType) : arrayOf type.dimensions type.base = type := by
  induction type with
  | primitive p => rfl
  | object name => rfl
  | array component ih => exact congrArg FieldType.array ih

theorem dimensions_base (type : FieldType) : type.base.dimensions = 0 := by
  induction type with
  | primitive p => rfl
  | object name => rfl
  | array component ih => exact ih

theorem namesWellFormed_base (type : FieldType) :
    type.base.NamesWellFormed ↔ type.NamesWellFormed := by
  rw [← namesWellFormed_arrayOf type.dimensions, arrayOf_dimensions_base]

theorem toChars_head (type : FieldType) :
    ∃ first following, type.toChars = first :: following ∧ first ≠ ')' ∧ first ≠ 'V' := by
  cases type with
  | primitive p => cases p <;> exact ⟨_, _, rfl, by decide, by decide⟩
  | object name => exact ⟨_, _, rfl, by decide, by decide⟩
  | array component => exact ⟨_, _, rfl, by decide, by decide⟩

/-- A type that is no array starts with no bracket, so all brackets in front of it are counted. -/
theorem toChars_head_of_dimensions_eq_zero {type : FieldType} (flat : type.dimensions = 0) :
    ∃ first following, type.toChars = first :: following ∧ first ≠ '[' := by
  cases type with
  | primitive p => cases p <;> exact ⟨_, _, rfl, by decide⟩
  | object name => exact ⟨_, _, rfl, by decide⟩
  | array component => simp [dimensions] at flat

end FieldType

/-! ## Readers against printers -/

namespace Descriptor

theorem isValidName_iff {name : List Char} (noSemicolon : ';' ∉ name) :
    isValidName name = true ↔ ClassName.WellFormed (String.ofList name) := by
  -- The semicolon ends a name, so the reader never tests for it; the assumption stands in.
  constructor
  · intro valid
    simp only [isValidName, Bool.and_eq_true, Bool.not_eq_true', List.isEmpty_eq_false_iff,
      List.any_eq_false, isReserved, Bool.or_eq_true, beq_iff_eq, not_or] at valid
    constructor
    · intro empty
      exact valid.1 (by simpa using congrArg String.toList empty)
    · intro c member
      rw [String.toList_ofList] at member
      obtain ⟨⟨⟨noDot, noBracket⟩, noOpening⟩, noClosing⟩ := valid.2 c member
      have noEnd : c ≠ ';' := fun same => noSemicolon (same ▸ member)
      simp [noDot, noEnd, noBracket, noOpening, noClosing]
  · intro wellFormed
    rcases wellFormed with ⟨nonempty, unreserved⟩
    rw [String.toList_ofList] at unreserved
    have listNonempty : name ≠ [] := by
      intro empty
      subst empty
      exact nonempty rfl
    simp only [isValidName, Bool.and_eq_true, Bool.not_eq_true', List.isEmpty_eq_false_iff,
      List.any_eq_false, isReserved, Bool.or_eq_true, beq_iff_eq, not_or]
    refine ⟨listNonempty, ?_⟩
    intro c member
    have free := unreserved c member
    simp only [List.mem_cons, List.not_mem_nil, or_false, not_or] at free
    exact ⟨⟨⟨free.1, free.2.2.1⟩, free.2.2.2.1⟩, free.2.2.2.2⟩

theorem semicolon_not_mem {name : String} (wellFormed : ClassName.WellFormed name) :
    ';' ∉ name.toList := by
  intro member
  exact wellFormed.unreserved ';' member (by decide)

theorem readName_of_not_mem {unread : List Char} (missing : ';' ∉ unread) :
    readName unread = .error .unterminatedName := by
  have unended : unread.dropWhile (· != ';') = [] := by
    rw [List.dropWhile_eq_nil_iff]
    intro c member
    rw [bne_iff_ne]
    rintro rfl
    exact missing member
  simp only [readName, unended]

theorem readName_append {name : List Char} (free : ';' ∉ name) (rest : List Char) :
    readName (name ++ ';' :: rest) =
      if isValidName name then .ok (String.ofList name, rest)
      else .error (.invalidName (String.ofList name)) := by
  have inside : ∀ c ∈ name, (c != ';') = true := by
    intro c member
    rw [bne_iff_ne]
    rintro rfl
    exact free member
  simp only [readName, List.takeWhile_append_of_pos inside, List.dropWhile_append_of_pos inside]
  simp

theorem readName_complete {name : String} (wellFormed : ClassName.WellFormed name)
    (rest : List Char) : readName (name.toList ++ ';' :: rest) = .ok (name, rest) := by
  have valid : isValidName name.toList = true :=
    (isValidName_iff (semicolon_not_mem wellFormed)).mpr (by rwa [String.ofList_toList])
  rw [readName_append (semicolon_not_mem wellFormed), if_pos valid, String.ofList_toList]

theorem readName_sound {unread rest : List Char} {name : String}
    (read : readName unread = .ok (name, rest)) :
    ClassName.WellFormed name ∧ unread = name.toList ++ ';' :: rest := by
  simp only [readName] at read
  split at read
  · simp at read
  next c tail left =>
    split at read
    next valid =>
      simp only [Except.ok.injEq, Prod.mk.injEq] at read
      obtain ⟨rfl, rfl⟩ := read
      have noSemicolon : ';' ∉ unread.takeWhile (· != ';') := by
        intro member
        simpa using List.mem_takeWhile_imp member
      -- The reader drops the first character that is left without looking at it again.
      have ending : c = ';' := by
        simpa [left] using List.head_dropWhile_not (· != ';') (l := unread) (by simp [left])
      subst ending
      refine ⟨(isValidName_iff noSemicolon).mp valid, ?_⟩
      rw [String.toList_ofList, ← left]
      exact List.takeWhile_append_dropWhile.symm
    · simp at read

theorem bind_eq_ok {α β : Type} {first : Except DescriptorFault α}
    {next : α → Except DescriptorFault β} {value : β} :
    (first >>= next) = .ok value ↔ ∃ middle, first = .ok middle ∧ next middle = .ok value := by
  cases first with
  | error fault => simp [bind, Except.bind]
  | ok middle => simp [bind, Except.bind]

theorem readBase_complete {type : FieldType} (names : type.NamesWellFormed)
    (flat : type.dimensions = 0) (rest : List Char) :
    readBase (type.toChars ++ rest) = .ok (type, rest) := by
  cases type with
  | primitive p => cases p <;> rfl
  | object name =>
    have read := readName_complete names rest
    simp [FieldType.toChars, readBase, read, bind, Except.bind, pure, Except.pure]
  | array component => simp [FieldType.dimensions] at flat

theorem ofCode?_sound {c : Char} {p : Primitive} (found : Primitive.ofCode? c = some p) :
    c = p.code := by
  unfold Primitive.ofCode? at found
  split at found <;> cases found <;> rfl

theorem readBase_sound {unread rest : List Char} {type : FieldType}
    (read : readBase unread = .ok (type, rest)) :
    type.NamesWellFormed ∧ type.dimensions = 0 ∧ unread = type.toChars ++ rest := by
  cases unread with
  | nil => simp [readBase] at read
  | cons c tail =>
    simp only [readBase] at read
    split at read
    next reference =>
      obtain ⟨⟨name, left⟩, named, result⟩ := bind_eq_ok.mp read
      cases result
      obtain ⟨wellFormed, whole⟩ := readName_sound named
      refine ⟨wellFormed, rfl, ?_⟩
      simp [FieldType.toChars, whole, beq_iff_eq.mp reference]
    next =>
      split at read
      next p found =>
        cases read
        exact ⟨trivial, rfl, by rw [ofCode?_sound found]; rfl⟩
      next => cases read

theorem takeWhile_bracket (unread : List Char) : unread.takeWhile (· == '[') =
    List.replicate (unread.takeWhile (· == '[')).length '[' := by
  rw [List.eq_replicate_iff]
  exact ⟨rfl, fun c member => by simpa using List.mem_takeWhile_imp member⟩

theorem brackets_append (count : Nat) {text : List Char} (free : ∀ c ∈ text.head?, c ≠ '[') :
    (List.replicate count '[' ++ text).takeWhile (· == '[') = List.replicate count '[' ∧
      (List.replicate count '[' ++ text).dropWhile (· == '[') = text := by
  have brackets : ∀ c ∈ List.replicate count '[', (c == '[') = true := by
    intro c member
    rw [List.eq_of_mem_replicate member, beq_self_eq_true]
  have none : text.takeWhile (· == '[') = [] ∧ text.dropWhile (· == '[') = text := by
    cases text with
    | nil => exact ⟨rfl, rfl⟩
    | cons c tail => simpa using free c rfl
  rw [List.takeWhile_append_of_pos brackets, List.dropWhile_append_of_pos brackets, none.1,
    List.append_nil]
  exact ⟨rfl, none.2⟩

theorem readType_replicate {count : Nat} (few : count ≤ maxDimensions) {text : List Char}
    (free : ∀ c ∈ text.head?, c ≠ '[') : readType (List.replicate count '[' ++ text) = do
      let (type, rest) ← readBase text
      return (.arrayOf count type, rest) := by
  simp only [readType, brackets_append count free, List.length_replicate,
    if_neg (Nat.not_lt.mpr few)]

theorem readType_of_tooMany {count : Nat} (many : maxDimensions < count) {text : List Char}
    (free : ∀ c ∈ text.head?, c ≠ '[') :
    readType (List.replicate count '[' ++ text) = .error (.tooManyDimensions count) := by
  simp only [readType, brackets_append count free, List.length_replicate, if_pos many]

theorem readType_complete {type : FieldType} (wellFormed : type.WellFormed) (rest : List Char) :
    readType (type.toChars ++ rest) = .ok (type, rest) := by
  have spelled : type.toChars = List.replicate type.dimensions '[' ++ type.base.toChars := by
    rw [← FieldType.toChars_arrayOf, FieldType.arrayOf_dimensions_base]
  -- The type under the brackets starts with none, so the reader counts just the brackets.
  have base := readBase_complete ((FieldType.namesWellFormed_base type).mpr wellFormed.names)
    type.dimensions_base rest
  obtain ⟨first, following, head, notBracket⟩ :=
    FieldType.toChars_head_of_dimensions_eq_zero type.dimensions_base
  have free : ∀ c ∈ (type.base.toChars ++ rest).head?, c ≠ '[' := by simp [head, notBracket]
  rw [spelled, List.append_assoc, readType_replicate wellFormed.dimensions free, base]
  simp [bind, Except.bind, pure, Except.pure, FieldType.arrayOf_dimensions_base]

theorem readType_sound {unread rest : List Char} {type : FieldType}
    (read : readType unread = .ok (type, rest)) :
    type.WellFormed ∧ unread = type.toChars ++ rest := by
  simp only [readType] at read
  split at read
  · cases read
  next few =>
    obtain ⟨⟨base, left⟩, based, result⟩ := bind_eq_ok.mp read
    cases result
    obtain ⟨names, flat, whole⟩ := readBase_sound based
    refine ⟨⟨(FieldType.namesWellFormed_arrayOf _ _).mpr names, ?_⟩, ?_⟩
    · rw [FieldType.dimensions_arrayOf, flat, Nat.zero_add]
      exact Nat.not_lt.mp few
    · rw [FieldType.toChars_arrayOf, ← takeWhile_bracket, List.append_assoc, ← whole]
      exact List.takeWhile_append_dropWhile.symm

theorem readType_iff {unread rest : List Char} {type : FieldType} :
    readType unread = .ok (type, rest) ↔ type.WellFormed ∧ unread = type.toChars ++ rest := by
  constructor
  · exact readType_sound
  · intro spelled
    rcases spelled with ⟨wellFormed, whole⟩
    rw [whole]
    exact readType_complete wellFormed rest

theorem readReturn_iff {unread rest : List Char} {result : ReturnType} :
    readReturn unread = .ok (result, rest) ↔
      result.WellFormed ∧ unread = result.toChars ++ rest := by
  unfold readReturn
  split
  next tail =>
    constructor
    · intro read
      cases read
      exact ⟨trivial, rfl⟩
    · intro spelled
      rcases spelled with ⟨wellFormed, whole⟩
      cases result with
      | void => cases whole; rfl
      | value type =>
        -- No type starts with the letter of a missing result.
        obtain ⟨first, following, head, _, notV⟩ := type.toChars_head
        rw [ReturnType.toChars, head] at whole
        exact absurd (List.cons.inj whole).1.symm notV
  next notVoid =>
    constructor
    · intro read
      obtain ⟨⟨type, left⟩, typed, same⟩ := bind_eq_ok.mp read
      cases same
      exact readType_sound typed
    · intro spelled
      rcases spelled with ⟨wellFormed, rfl⟩
      cases result with
      | void => exact absurd rfl (notVoid rest)
      | value type =>
        exact bind_eq_ok.mpr ⟨(type, rest), readType_complete wellFormed rest, rfl⟩

theorem readParams_of_ne {unread : List Char} (notClosed : ∀ tail, unread ≠ ')' :: tail) :
    readParams unread = do
      let (type, rest) ← readType unread
      let (types, rest) ← readParams rest
      return (type :: types, rest) := by
  rw [readParams.eq_2 unread notClosed]
  split
  next fault read => simp only [read]; rfl
  next type rest read =>
    simp only [read]
    cases more : readParams rest <;> simp [more, bind, Except.bind, pure, Except.pure, Except.map]

theorem readParams_complete {types : List FieldType}
    (wellFormed : ∀ type ∈ types, type.WellFormed) (rest : List Char) :
    readParams (types.flatMap FieldType.toChars ++ ')' :: rest) = .ok (types, rest) := by
  induction types with
  | nil => exact readParams.eq_1 rest
  | cons type types ih =>
    obtain ⟨first, following, head, notClosing, _⟩ := type.toChars_head
    have typed := readType_complete (wellFormed type List.mem_cons_self)
      (types.flatMap FieldType.toChars ++ ')' :: rest)
    have others := ih fun other member => wellFormed other (List.mem_cons_of_mem type member)
    -- A type never starts with the parenthesis that would end the loop.
    rw [List.flatMap_cons, List.append_assoc, readParams_of_ne]
    · exact bind_eq_ok.mpr ⟨_, typed, bind_eq_ok.mpr ⟨_, others, rfl⟩⟩
    · intro tail
      rw [head]
      exact fun same => notClosing (List.cons.inj same).1

theorem readParams_sound {unread rest : List Char} {types : List FieldType}
    (read : readParams unread = .ok (types, rest)) :
    (∀ type ∈ types, type.WellFormed) ∧
      unread = types.flatMap FieldType.toChars ++ ')' :: rest := by
  -- The reader recurses on what a type has left, so the induction follows its own.
  induction unread using readParams.induct generalizing types with
  | case1 tail =>
    rw [readParams.eq_1] at read
    cases read
    exact ⟨by simp, rfl⟩
  | case2 unread notClosed fault failed =>
    rw [readParams_of_ne notClosed, failed] at read
    cases read
  | case3 unread notClosed type left typed shorter ih =>
    rw [readParams_of_ne notClosed] at read
    obtain ⟨_, again, read⟩ := bind_eq_ok.mp read
    cases typed.symm.trans again
    obtain ⟨⟨others, remaining⟩, more, same⟩ := bind_eq_ok.mp read
    cases same
    obtain ⟨wellFormed, whole⟩ := readType_sound typed
    obtain ⟨othersWellFormed, others⟩ := ih more
    constructor
    · simpa using ⟨wellFormed, othersWellFormed⟩
    · rw [whole, others, List.flatMap_cons, List.append_assoc]

theorem readMethod_iff {unread rest : List Char} {descriptor : MethodDescriptor} :
    readMethod unread = .ok (descriptor, rest) ↔
      descriptor.WellFormed ∧ unread = descriptor.toChars ++ rest := by
  constructor
  · intro read
    unfold readMethod at read
    split at read
    · cases read
    next tail =>
      obtain ⟨⟨params, middle⟩, paramsRead, read⟩ := bind_eq_ok.mp read
      obtain ⟨⟨result, left⟩, resultRead, same⟩ := bind_eq_ok.mp read
      cases same
      obtain ⟨paramsWellFormed, whole⟩ := readParams_sound paramsRead
      obtain ⟨resultWellFormed, tailWhole⟩ := readReturn_iff.mp resultRead
      refine ⟨⟨paramsWellFormed, resultWellFormed⟩, ?_⟩
      simp [MethodDescriptor.toChars, whole, tailWhole]
    · cases read
  · intro spelled
    rcases spelled with ⟨⟨paramsWellFormed, resultWellFormed⟩, rfl⟩
    obtain ⟨params, result⟩ := descriptor
    have whole : (MethodDescriptor.mk params result).toChars ++ rest =
        '(' :: (params.flatMap FieldType.toChars ++ ')' :: (result.toChars ++ rest)) := by
      simp [MethodDescriptor.toChars]
    have paramsRead := readParams_complete paramsWellFormed (result.toChars ++ rest)
    have resultRead := readReturn_iff.mpr ⟨resultWellFormed, Eq.refl (result.toChars ++ rest)⟩
    rw [whole]
    exact bind_eq_ok.mpr ⟨_, paramsRead, bind_eq_ok.mpr ⟨_, resultRead, rfl⟩⟩

theorem readWhole_eq_ok_iff {α : Type} {text : String} {value : α}
    {reader : List Char → Except DescriptorFault (α × List Char)} :
    readWhole reader text = .ok value ↔ reader text.toList = .ok (value, []) := by
  unfold readWhole
  split <;> simp_all

theorem readWhole_eq_error_iff {α : Type} {text : String} {error : DescriptorError}
    {reader : List Char → Except DescriptorFault (α × List Char)} :
    readWhole reader text = .error error ↔ error.text = text ∧
      (reader text.toList = .error error.fault ∨
        ∃ value unread, unread ≠ [] ∧ reader text.toList = .ok (value, unread) ∧
          error.fault = .trailing unread) := by
  constructor
  · intro failed
    unfold readWhole at failed
    split at failed
    next fault read =>
      cases failed
      exact ⟨rfl, .inl read⟩
    next => cases failed
    next value unread leftover read =>
      cases failed
      exact ⟨rfl, .inr ⟨value, unread, leftover, read, rfl⟩⟩
  · intro cause
    rcases cause with ⟨rfl, read | ⟨value, unread, leftover, read, trailing⟩⟩
    · simp only [readWhole, read]
    · obtain ⟨c, tail, rfl⟩ := List.exists_cons_of_ne_nil leftover
      simp only [readWhole, read, ← trailing]

end Descriptor

theorem FieldType.text_eq_iff {type : FieldType} {text : String} :
    type.text = text ↔ text.toList = type.toChars := by
  rw [FieldType.text, ← String.toList_inj, String.toList_ofList, eq_comm]

theorem MethodDescriptor.text_eq_iff {descriptor : MethodDescriptor} {text : String} :
    descriptor.text = text ↔ text.toList = descriptor.toChars := by
  rw [MethodDescriptor.text, ← String.toList_inj, String.toList_ofList, eq_comm]

/-- A text is accepted for a type, or for a descriptor, exactly if it is the text of that value and
the value is well formed. -/
theorem parse_eq_ok_iff_wellFormed (text : String) :
    (∀ descriptor : MethodDescriptor, MethodDescriptor.parse text = .ok descriptor ↔
      descriptor.WellFormed ∧ descriptor.text = text) ∧
    (∀ type : FieldType, FieldType.parse text = .ok type ↔ type.WellFormed ∧ type.text = text) := by
  constructor
  · intro descriptor
    rw [MethodDescriptor.parse, Descriptor.readWhole_eq_ok_iff, Descriptor.readMethod_iff,
      List.append_nil, MethodDescriptor.text_eq_iff]
  · intro type
    rw [FieldType.parse, Descriptor.readWhole_eq_ok_iff, Descriptor.readType_iff, List.append_nil,
      FieldType.text_eq_iff]

end LambdaLowering
