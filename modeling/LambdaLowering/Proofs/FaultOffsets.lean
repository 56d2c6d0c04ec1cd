import LambdaLowering.Proofs.ViablePrefixes

/-! Where the message of a refused descriptor says that the fault lies.

Messages count bytes of the UTF-8 form and show one byte. Readers work on characters, so a place
in the message is first traced back to the unread characters there.
-/

set_option autoImplicit false

namespace LambdaLowering

/-! ## Bytes of texts -/

def utf8Bytes (text : String) : List UInt8 := text.toUTF8.data.toList

theorem utf8Bytes_ofList (chars : List Char) :
    utf8Bytes (String.ofList chars) = chars.flatMap String.utf8EncodeChar := by
  rw [utf8Bytes, String.toUTF8_eq_toByteArray, String.toByteArray_ofList]
  exact List.toList_data_toByteArray

theorem utf8Bytes_eq_flatMap (text : String) :
    utf8Bytes text = text.toList.flatMap String.utf8EncodeChar := by
  rw [← utf8Bytes_ofList, String.ofList_toList]

theorem utf8ByteSize_eq_length (text : String) : text.utf8ByteSize = (utf8Bytes text).length := by
  rw [utf8Bytes, String.toUTF8_eq_toByteArray, Array.length_toList]
  rfl

/-- No character is cut: the bytes of characters that start a text are those of its first ones. -/
theorem toList_isPrefix_of_utf8Bytes {chars : List Char} {whole : String}
    (starts : chars.flatMap String.utf8EncodeChar <+: utf8Bytes whole) :
    chars <+: whole.toList := by
  obtain ⟨rest, same⟩ := starts
  rw [utf8Bytes_eq_flatMap] at same
  apply List.isPrefix_of_utf8Encode_append_eq_utf8Encode rest.toByteArray
  rw [List.utf8Encode, List.utf8Encode, ← same, List.toByteArray_append]

namespace DescriptorError

/-! ## Messages read back -/

theorem offset_eq_length {error : DescriptorError} {before unread : List Char}
    (whole : error.text.toList = before ++ unread) :
    error.offset unread = (before.flatMap String.utf8EncodeChar).length := by
  rw [offset, utf8ByteSize_eq_length, utf8ByteSize_eq_length, utf8Bytes_eq_flatMap, whole,
    utf8Bytes_ofList, List.flatMap_append, List.length_append, Nat.add_sub_cancel]

theorem eq_of_toDigits_eq {first second : Nat}
    (same : Nat.toDigits 10 first = Nat.toDigits 10 second) : first = second := by
  have readBack : ∀ number, Nat.ofDigitChars 10 (Nat.toDigits 10 number) 0 = number :=
    fun _ => Nat.ofDigitChars_toDigits (by decide) (by decide)
  rw [← readBack first, same, readBack]

theorem fault_of_message_truncated {error : DescriptorError}
    (message : error.message = s!"Descriptor '{error.text}' ends unexpectedly") :
    error.fault = .truncated := by
  obtain ⟨text, fault⟩ := error
  have letters := congrArg String.toList message
  unfold DescriptorError.message at letters
  cases fault <;> simp [toString] at letters ⊢

theorem fault_of_message_unexpected {error : DescriptorError} {shown : Char} {position : Nat}
    (message : error.message =
      s!"Unexpected '{shown}' at offset {position} of descriptor '{error.text}'") :
    ∃ offender following, error.fault = .unexpected offender following ∧
      leadByte offender = shown ∧ error.offset (offender :: following) = position := by
  obtain ⟨text, fault⟩ := error
  have letters := congrArg String.toList message
  unfold DescriptorError.message at letters
  cases fault with
  | unexpected offender following =>
    simp only [toString] at letters
    simp at letters
    exact ⟨offender, following, rfl, letters.1, eq_of_toDigits_eq letters.2⟩
  | _ => simp [toString] at letters

theorem fault_of_message_trailing {error : DescriptorError} {position : Nat}
    (message : error.message =
      s!"Trailing characters in descriptor '{error.text}' at offset {position}") :
    ∃ unread, error.fault = .trailing unread ∧ error.offset unread = position := by
  obtain ⟨text, fault⟩ := error
  have letters := congrArg String.toList message
  unfold DescriptorError.message at letters
  cases fault with
  | trailing unread =>
    simp [toString] at letters
    exact ⟨unread, rfl, eq_of_toDigits_eq letters⟩
  | _ => simp [toString] at letters

end DescriptorError

namespace Descriptor

variable {α : Type} {reader : Reader α}

/-- Some accepted text starts with these bytes. -/
def Viable (parse : String → Except DescriptorError α) (bytes : List UInt8) : Prop :=
  ∃ whole value, parse whole = .ok value ∧ bytes <+: utf8Bytes whole

/-- What the messages of refused texts say about the place of the fault is true. -/
structure LocatesFaults (parse : String → Except DescriptorError α) : Prop where
  unexpected : ∀ {text error shown position}, parse text = .error error →
    error.message = s!"Unexpected '{shown}' at offset {position} of descriptor '{text}'" →
    (∃ byte : UInt8, (utf8Bytes text)[position]? = some byte ∧ shown = Char.ofNat byte.toNat) ∧
      Viable parse ((utf8Bytes text).take position) ∧
      ¬ Viable parse ((utf8Bytes text).take (position + 1))
  trailing : ∀ {text error position}, parse text = .error error →
    error.message = s!"Trailing characters in descriptor '{text}' at offset {position}" →
    position < (utf8Bytes text).length ∧
      ∃ whole value, parse whole = .ok value ∧ utf8Bytes whole = (utf8Bytes text).take position
  truncated : ∀ {text error}, parse text = .error error →
    error.message = s!"Descriptor '{text}' ends unexpectedly" →
    ∃ whole value, parse whole = .ok value ∧ utf8Bytes text <+: utf8Bytes whole ∧ text ≠ whole
  cut : ∀ {whole value part}, parse whole = .ok value → utf8Bytes part <+: utf8Bytes whole →
    part ≠ whole → ∃ error, parse part = .error error ∧
      (error.message = s!"Descriptor '{part}' ends unexpectedly" ∨
        error.message = s!"Unterminated class name in descriptor '{part}'")

theorem Reader.Takes.readWhole {word : List Char} {value : α} (takes : reader.Takes word value) :
    readWhole reader (String.ofList word) = .ok value := by
  rw [readWhole_eq_ok_iff, String.toList_ofList]
  simpa using takes.whole []

theorem Reader.Completable.viable {text : List Char} (begun : reader.Completable text) :
    Viable (readWhole reader) (text.flatMap String.utf8EncodeChar) := by
  obtain ⟨more, value, takes⟩ := begun
  refine ⟨String.ofList (text ++ more), value, takes.readWhole, ?_⟩
  rw [utf8Bytes_ofList, List.flatMap_append]
  exact List.prefix_append _ _

theorem exists_lead (c : Char) : ∃ lead others, String.utf8EncodeChar c = lead :: others := by
  have nonempty : String.utf8EncodeChar c ≠ [] := String.utf8EncodeChar_ne_nil
  exact List.exists_cons_of_ne_nil nonempty

/-- A text that starts with what was passed and with the first byte of the offender goes on with
a character that is refused as well. -/
theorem not_viable_of_refused {passed : List Char} {offender : Char}
    (refused : ∀ other, SameLead other offender → ∀ tail,
      reader (passed ++ other :: tail) = .error (.unexpected other tail)) {lead : UInt8}
    (first : (String.utf8EncodeChar offender).head? = some lead) :
    ¬ Viable (readWhole reader) (passed.flatMap String.utf8EncodeChar ++ [lead]) := by
  intro viable
  obtain ⟨whole, value, read, starts⟩ := viable
  -- After what was passed, an accepted text would go on with the first byte of the offender.
  obtain ⟨rest, others⟩ :=
    toList_isPrefix_of_utf8Bytes ((List.prefix_append _ [lead]).trans starts)
  rw [readWhole_eq_ok_iff, ← others] at read
  rw [utf8Bytes_eq_flatMap, ← others, List.flatMap_append, List.prefix_append_right_inj] at starts
  cases rest with
  | nil => simp at starts
  | cons other tail =>
    obtain ⟨byte, bytes, spelled⟩ := exists_lead other
    simp only [List.flatMap_cons, spelled, List.cons_append, List.cons_prefix_cons] at starts
    have same : SameLead other offender := by
      rw [SameLead, first, starts.1, spelled, List.head?_cons]
    cases (refused other same tail).symm.trans read

theorem Reader.Pinpoints.bytes_of_unexpected {error : DescriptorError} {offender : Char}
    {following : List Char} (exact : reader.Pinpoints error.text.toList)
    (failed : reader error.text.toList = .error (.unexpected offender following)) :
    ∃ before lead after, utf8Bytes error.text = before ++ lead :: after ∧
      error.offset (offender :: following) = before.length ∧
      DescriptorError.leadByte offender = Char.ofNat lead.toNat ∧
      Viable (readWhole reader) before ∧ ¬ Viable (readWhole reader) (before ++ [lead]) := by
  obtain ⟨passed, whole, begun, refused⟩ := exact.unexpected failed
  obtain ⟨lead, others, spelled⟩ := exists_lead offender
  have first : (String.utf8EncodeChar offender).head? = some lead := by
    rw [spelled, List.head?_cons]
  refine ⟨passed.flatMap String.utf8EncodeChar, lead,
    others ++ following.flatMap String.utf8EncodeChar, ?_, ?_, ?_, begun.viable,
    not_viable_of_refused refused first⟩
  · rw [utf8Bytes_eq_flatMap, whole, List.flatMap_append, List.flatMap_cons, spelled,
      List.cons_append]
  · exact DescriptorError.offset_eq_length whole
  · rw [DescriptorError.leadByte, spelled, List.headD_cons]

theorem Reader.Pinpoints.bytes_of_trailing {error : DescriptorError} {value : α}
    {unread : List Char} (exact : reader.Pinpoints error.text.toList)
    (read : reader error.text.toList = .ok (value, unread)) (leftover : unread ≠ []) :
    ∃ whole lead after, utf8Bytes error.text = utf8Bytes whole ++ lead :: after ∧
      error.offset unread = (utf8Bytes whole).length ∧ readWhole reader whole = .ok value := by
  obtain ⟨word, spelling, takes⟩ := exact.taken read
  obtain ⟨c, tail, rfl⟩ := List.exists_cons_of_ne_nil leftover
  obtain ⟨lead, others, spelled⟩ := exists_lead c
  refine ⟨String.ofList word, lead, others ++ tail.flatMap String.utf8EncodeChar, ?_, ?_,
    takes.readWhole⟩
  · rw [utf8Bytes_eq_flatMap, spelling, utf8Bytes_ofList, List.flatMap_append, List.flatMap_cons,
      spelled, List.cons_append]
  · rw [utf8Bytes_ofList]
    exact DescriptorError.offset_eq_length spelling

theorem locatesFaults_readWhole (exact : ∀ unread, reader.Pinpoints unread) :
    LocatesFaults (readWhole reader) where
  unexpected {text error shown position} failed message := by
    obtain ⟨rfl, cause⟩ := readWhole_eq_error_iff.mp failed
    obtain ⟨offender, following, fault, rfl, rfl⟩ :=
      DescriptorError.fault_of_message_unexpected message
    rw [fault] at cause
    -- The fault is one of the reader, since text left over has a message of its own.
    rcases cause with read | ⟨_, _, _, _, trailing⟩
    · obtain ⟨before, lead, after, bytes, offset, shown, begun, ended⟩ :=
        (exact _).bytes_of_unexpected read
      have upTo : (before ++ [lead]).length = before.length + 1 := List.length_append
      rw [offset, bytes]
      refine ⟨⟨lead, ?_, shown⟩, ?_, ?_⟩
      · rw [List.getElem?_append_right (Nat.le_refl _), Nat.sub_self, List.getElem?_cons_zero]
      · rwa [List.take_left]
      · rwa [List.append_cons, List.take_left' upTo]
    · cases trailing
  trailing {text error position} failed message := by
    obtain ⟨rfl, cause⟩ := readWhole_eq_error_iff.mp failed
    obtain ⟨unread, fault, rfl⟩ := DescriptorError.fault_of_message_trailing message
    rw [fault] at cause
    rcases cause with read | ⟨value, _, leftover, read, same⟩
    · exact absurd read ((exact _).noTrailing unread)
    · cases same
      obtain ⟨whole, lead, after, bytes, offset, accepted⟩ :=
        (exact _).bytes_of_trailing read leftover
      rw [offset, bytes]
      constructor
      · rw [List.length_append, List.length_cons]
        omega
      · exact ⟨whole, value, accepted, List.take_left.symm⟩
  truncated {text error} failed message := by
    obtain ⟨rfl, cause⟩ := readWhole_eq_error_iff.mp failed
    rw [DescriptorError.fault_of_message_truncated message] at cause
    rcases cause with read | ⟨_, _, _, _, trailing⟩
    · obtain ⟨more, value, takes⟩ := (exact _).truncated read
      have accepted := takes.readWhole
      refine ⟨String.ofList (error.text.toList ++ more), value, accepted, ?_, ?_⟩
      · rw [utf8Bytes_ofList, utf8Bytes_eq_flatMap, List.flatMap_append]
        exact List.prefix_append _ _
      · intro same
        rw [← same] at accepted
        cases failed.symm.trans accepted
    · cases trailing
  cut {whole value part} accepted starts shorter := by
    rw [readWhole_eq_ok_iff] at accepted
    obtain ⟨after, spelled⟩ := toList_isPrefix_of_utf8Bytes (utf8Bytes_eq_flatMap part ▸ starts)
    have nonempty : after ≠ [] := by
      rintro rfl
      rw [List.append_nil, String.toList_inj] at spelled
      exact shorter spelled
    obtain ⟨word, same, takes⟩ := (exact _).taken accepted
    rw [List.append_nil] at same
    -- The part is cut inside the word that the reader takes from the whole.
    obtain ⟨fault, failed, atEnd⟩ := takes.short (same.symm.trans spelled.symm) nonempty
    refine ⟨⟨part, fault⟩, readWhole_eq_error_iff.mpr ⟨rfl, .inl failed⟩, ?_⟩
    rcases atEnd with rfl | rfl
    · exact .inl rfl
    · exact .inr rfl

end Descriptor

/-- The place, the byte and the cause that a message about a refused descriptor or type gives are
those at which it stops being one. -/
theorem locatesFaults_parse :
    Descriptor.LocatesFaults MethodDescriptor.parse ∧ Descriptor.LocatesFaults FieldType.parse := by
  constructor
  · exact Descriptor.locatesFaults_readWhole Descriptor.pinpoints_readMethod
  · exact Descriptor.locatesFaults_readWhole Descriptor.pinpoints_readType

/-- The two bytes of `é` are not shown as a character: the offset is that of the first one. -/
example : (MethodDescriptor.parse "(é)V").mapError DescriptorError.message =
    .error "Unexpected 'Ã' at offset 1 of descriptor '(é)V'" := by
  cbv

end LambdaLowering
