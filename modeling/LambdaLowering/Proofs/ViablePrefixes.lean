import LambdaLowering.Proofs.DescriptorText

/-! What a refused descriptor text still has in common with the accepted ones.

A reader looks at the text from left to right and never goes back. What it has passed when it
meets a character it cannot use is therefore the beginning of a text that it accepts, and no
accepted text goes on with that character. A text that is cut off is refused for that reason alone.

These facts are stated for one reader at one unread text and carried along the way in which the
readers are put together: one reader after another, and a reader that first passes a fixed word.
-/

set_option autoImplicit false

namespace LambdaLowering.Descriptor

/-! ## First bytes of characters -/

/-- Two characters whose UTF-8 forms start with the same byte: after that byte alone either one
may still follow. -/
def SameLead (c d : Char) : Prop :=
  (String.utf8EncodeChar c).head? = (String.utf8EncodeChar d).head?

theorem lead_of_ascii {c : Char} (ascii : c.val.toNat ≤ 127) :
    ∃ lead, (String.utf8EncodeChar c).head? = some lead ∧ lead.toNat = c.val.toNat := by
  simp only [String.utf8EncodeChar, if_pos ascii]
  exact ⟨_, rfl, by simp only [UInt8.toNat_ofNat']; omega⟩

theorem lead_of_not_ascii {c : Char} (wide : ¬ c.val.toNat ≤ 127) :
    ∃ lead, (String.utf8EncodeChar c).head? = some lead ∧ 192 ≤ lead.toNat := by
  simp only [String.utf8EncodeChar, if_neg wide]
  split
  · exact ⟨_, rfl, by simp only [UInt8.toNat_ofNat']; omega⟩
  · split
    · exact ⟨_, rfl, by simp only [UInt8.toNat_ofNat']; omega⟩
    · exact ⟨_, rfl, by simp only [UInt8.toNat_ofNat']; omega⟩

theorem SameLead.eq_of_ascii {c d : Char} (same : SameLead c d) (ascii : d.val.toNat ≤ 127) :
    c = d := by
  obtain ⟨lead, leads, number⟩ := lead_of_ascii ascii
  by_cases narrow : c.val.toNat ≤ 127
  · obtain ⟨other, others, otherNumber⟩ := lead_of_ascii narrow
    cases others.symm.trans (same.trans leads)
    exact Char.ext (UInt32.toNat_inj.mp (otherNumber.symm.trans number))
  · obtain ⟨other, others, large⟩ := lead_of_not_ascii narrow
    cases others.symm.trans (same.trans leads)
    omega

/-! ## Readers and the words they take -/

abbrev Reader (α : Type) := List Char → Except DescriptorFault (α × List Char)

variable {α β : Type}

namespace Reader

def done (value : α) : Reader α := fun text => .ok (value, text)

def andThen (first : Reader α) (next : α → Reader β) : Reader β := fun text => do
  let (value, rest) ← first text
  next value rest

theorem andThen_of_ok {first : Reader α} {text rest : List Char} {value : α}
    (read : first text = .ok (value, rest)) (next : α → Reader β) :
    first.andThen next text = next value rest := by
  simp only [andThen, read]
  rfl

theorem andThen_of_error {first : Reader α} {text : List Char} {fault : DescriptorFault}
    (failed : first text = .error fault) (next : α → Reader β) :
    first.andThen next text = .error fault := by
  simp only [andThen, failed]
  rfl

def EndsTooSoon (reader : Reader α) (text : List Char) : Prop :=
  ∃ fault, reader text = .error fault ∧ (fault = .truncated ∨ fault = .unterminatedName)

/-- The reader takes exactly this word, whatever follows it, and nothing less will do. -/
structure Takes (reader : Reader α) (word : List Char) (value : α) : Prop where
  whole : ∀ more, reader (word ++ more) = .ok (value, more)
  short : ∀ {before after}, word = before ++ after → after ≠ [] → reader.EndsTooSoon before

/-- The text is the beginning of a word that the reader takes. -/
def Completable (reader : Reader α) (text : List Char) : Prop :=
  ∃ more value, reader.Takes (text ++ more) value

/-- At this unread text the reader takes a word, or its fault lies where it says: it has passed the
beginning of a word, and no word goes on with a character of the same first byte. What is left
over after a value is no fault of a reader. -/
structure Pinpoints (reader : Reader α) (unread : List Char) : Prop where
  taken : ∀ {value rest}, reader unread = .ok (value, rest) →
    ∃ word, unread = word ++ rest ∧ reader.Takes word value
  unexpected : ∀ {offender following}, reader unread = .error (.unexpected offender following) →
    ∃ passed, unread = passed ++ offender :: following ∧ reader.Completable passed ∧
      ∀ other, SameLead other offender → ∀ tail,
        reader (passed ++ other :: tail) = .error (.unexpected other tail)
  truncated : reader unread = .error .truncated → reader.Completable unread
  noTrailing : ∀ left, reader unread ≠ .error (.trailing left)

/-- A cut through two words that lie side by side goes through the first or beyond it. -/
theorem cut_cases {first second before after : List Char}
    (same : first ++ second = before ++ after) :
    (∃ rest, first = before ++ rest ∧ rest ≠ []) ∨
      ∃ into, before = first ++ into ∧ second = into ++ after := by
  rcases List.append_eq_append_iff.mp same with ⟨into, reached, left⟩ | ⟨rest, reached, left⟩
  · exact .inr ⟨into, reached, left⟩
  · by_cases none : rest = []
    · subst none
      exact .inr ⟨[], by simpa using reached.symm, left.symm⟩
    · exact .inl ⟨rest, reached, none⟩

theorem takes_done (value : α) : (done value).Takes [] value where
  whole _ := rfl
  short cut left := absurd (List.append_eq_nil_iff.mp cut.symm).2 left

theorem Takes.andThen {first : Reader α} {next : α → Reader β} {word more : List Char} {value : α}
    {result : β} (begins : first.Takes word value) (goesOn : (next value).Takes more result) :
    (first.andThen next).Takes (word ++ more) result where
  whole tail := by
    rw [List.append_assoc, andThen_of_ok (begins.whole (more ++ tail)), goesOn.whole tail]
  short cut left := by
    rcases cut_cases cut with ⟨rest, short, nonempty⟩ | ⟨into, rfl, short⟩
    · obtain ⟨fault, failed, atEnd⟩ := begins.short short nonempty
      exact ⟨fault, andThen_of_error failed next, atEnd⟩
    · obtain ⟨fault, failed, atEnd⟩ := goesOn.short short left
      exact ⟨fault, (andThen_of_ok (begins.whole into) next).trans failed, atEnd⟩

theorem Completable.andThen_first {first : Reader α} {next : α → Reader β} {text : List Char}
    (begun : first.Completable text) (ends : ∀ value, (next value).Completable []) :
    (first.andThen next).Completable text := by
  obtain ⟨more, value, takes⟩ := begun
  obtain ⟨ending, result, ended⟩ := ends value
  refine ⟨more ++ ending, result, ?_⟩
  rw [← List.append_assoc]
  exact takes.andThen ended

theorem Completable.andThen_next {first : Reader α} {next : α → Reader β} {word text : List Char}
    {value : α} (takes : first.Takes word value) (begun : (next value).Completable text) :
    (first.andThen next).Completable (word ++ text) := by
  obtain ⟨more, result, ended⟩ := begun
  refine ⟨more, result, ?_⟩
  rw [List.append_assoc]
  exact takes.andThen ended

theorem Takes.pinpoints {reader : Reader α} {word : List Char} {value : α}
    (takes : reader.Takes word value) (rest : List Char) : reader.Pinpoints (word ++ rest) where
  taken read := by
    cases (takes.whole rest).symm.trans read
    exact ⟨word, rfl, takes⟩
  unexpected failed := nomatch (takes.whole rest).symm.trans failed
  truncated failed := nomatch (takes.whole rest).symm.trans failed
  noTrailing _ failed := nomatch (takes.whole rest).symm.trans failed

theorem pinpoints_done (value : α) (unread : List Char) : (done value).Pinpoints unread :=
  (takes_done value).pinpoints unread

def Placed : DescriptorFault → Prop
  | .unexpected _ _ | .trailing _ => True
  | _ => False

theorem pinpoints_of_error {reader : Reader α} {unread : List Char} {fault : DescriptorFault}
    (failed : reader unread = .error fault) (unplaced : ¬ Placed fault)
    (cut : fault = .truncated → reader.Completable unread) : reader.Pinpoints unread where
  taken read := nomatch failed.symm.trans read
  unexpected other := by
    cases failed.symm.trans other
    exact absurd trivial unplaced
  truncated other := cut (Except.error.inj (failed.symm.trans other))
  noTrailing _ other := by
    cases failed.symm.trans other
    exact unplaced trivial

theorem Pinpoints.andThen {first : Reader α} {next : α → Reader β} {unread : List Char}
    (begins : first.Pinpoints unread)
    (goesOn : ∀ {value rest}, first unread = .ok (value, rest) → (next value).Pinpoints rest)
    (ends : ∀ value, (next value).Completable []) : (first.andThen next).Pinpoints unread := by
  cases read : first unread with
  | error fault =>
    have failed := andThen_of_error read next
    constructor
    · intro value rest again
      exact nomatch failed.symm.trans again
    · intro offender following again
      cases failed.symm.trans again
      obtain ⟨passed, whole, begun, refused⟩ := begins.unexpected read
      refine ⟨passed, whole, begun.andThen_first ends, ?_⟩
      intro other same tail
      exact andThen_of_error (refused other same tail) next
    · intro again
      cases failed.symm.trans again
      exact (begins.truncated read).andThen_first ends
    · intro left again
      cases failed.symm.trans again
      exact begins.noTrailing left read
  | ok result =>
    obtain ⟨value, rest⟩ := result
    obtain ⟨word, rfl, takes⟩ := begins.taken read
    have same := andThen_of_ok read next
    constructor
    · intro result left again
      obtain ⟨more, rfl, others⟩ := (goesOn read).taken (same.symm.trans again)
      exact ⟨word ++ more, (List.append_assoc ..).symm, takes.andThen others⟩
    · intro offender following again
      obtain ⟨passed, rfl, begun, refused⟩ := (goesOn read).unexpected (same.symm.trans again)
      refine ⟨word ++ passed, (List.append_assoc ..).symm, begun.andThen_next takes, ?_⟩
      intro other lead tail
      rw [List.append_assoc, andThen_of_ok (takes.whole _)]
      exact refused other lead tail
    · intro again
      exact ((goesOn read).truncated (same.symm.trans again)).andThen_next takes
    · intro left again
      exact (goesOn read).noTrailing left (same.symm.trans again)

theorem Takes.andThen_done {first : Reader α} {word : List Char} {value : α}
    (takes : first.Takes word value) (build : α → β) :
    (first.andThen fun value => done (build value)).Takes word (build value) := by
  have both : (first.andThen fun value => done (build value)).Takes (word ++ []) (build value) :=
    takes.andThen (takes_done (build value))
  rwa [List.append_nil] at both

theorem Pinpoints.andThen_done {first : Reader α} {unread : List Char}
    (exact : first.Pinpoints unread) (build : α → β) :
    (first.andThen fun value => done (build value)).Pinpoints unread := by
  apply exact.andThen (fun _ => pinpoints_done _ _)
  intro value
  exact ⟨[], _, takes_done _⟩

/-- After the word the reader goes on as another one does. Where a stop comes next it may do
something else, and the other one fails. -/
structure GoesOnAs (reader : Reader α) (word : List Char) (stops : Char → Prop)
    (inner : Reader α) : Prop where
  same : ∀ {text}, (∀ c ∈ text.head?, ¬ stops c) → reader (word ++ text) = inner text
  refuses : ∀ {c}, stops c → ∀ tail, inner (c :: tail) = .error (.unexpected c tail)
  ascii : ∀ {c}, stops c → c.val.toNat ≤ 127
  short : ∀ {before after}, word = before ++ after → after ≠ [] → reader.EndsTooSoon before

namespace GoesOnAs

variable {reader inner : Reader α} {word : List Char} {stops : Char → Prop}

theorem same_of_expected (goesOn : reader.GoesOnAs word stops inner) {text : List Char}
    (expected : ∀ c tail, inner text ≠ .error (.unexpected c tail)) :
    reader (word ++ text) = inner text := by
  apply goesOn.same
  intro c first stop
  obtain ⟨tail, rfl⟩ := List.head?_eq_some_iff.mp first
  exact expected c tail (goesOn.refuses stop tail)

theorem takes (goesOn : reader.GoesOnAs word stops inner) {more : List Char} {value : α}
    (takes : inner.Takes more value) : reader.Takes (word ++ more) value where
  whole tail := by
    have read := takes.whole tail
    rw [List.append_assoc, goesOn.same_of_expected (by simp [read]), read]
  short cut left := by
    rcases cut_cases cut with ⟨rest, short, nonempty⟩ | ⟨into, rfl, short⟩
    · exact goesOn.short short nonempty
    · obtain ⟨fault, failed, atEnd⟩ := takes.short short left
      refine ⟨fault, ?_, atEnd⟩
      rw [goesOn.same_of_expected, failed]
      intro c tail stopped
      cases failed.symm.trans stopped
      simp at atEnd

theorem completable (goesOn : reader.GoesOnAs word stops inner) {text : List Char}
    (begun : inner.Completable text) : reader.Completable (word ++ text) := by
  obtain ⟨more, value, takes⟩ := begun
  refine ⟨more, value, ?_⟩
  rw [List.append_assoc]
  exact goesOn.takes takes

theorem pinpoints (goesOn : reader.GoesOnAs word stops inner) {text : List Char}
    (free : ∀ c ∈ text.head?, ¬ stops c) (exact : inner.Pinpoints text) :
    reader.Pinpoints (word ++ text) where
  taken read := by
    obtain ⟨more, rfl, takes⟩ := exact.taken ((goesOn.same free).symm.trans read)
    exact ⟨word ++ more, (List.append_assoc ..).symm, goesOn.takes takes⟩
  unexpected failed := by
    obtain ⟨passed, rfl, begun, refused⟩ := exact.unexpected ((goesOn.same free).symm.trans failed)
    refine ⟨word ++ passed, (List.append_assoc ..).symm, goesOn.completable begun, ?_⟩
    intro other same tail
    rw [List.append_assoc, goesOn.same, refused other same tail]
    -- The first byte of the offender decides, so the other character is no stop either.
    cases passed with
    | nil =>
      intro c first stop
      cases first
      exact free _ rfl (SameLead.eq_of_ascii same.symm (goesOn.ascii stop) ▸ stop)
    | cons c passed => exact free
  truncated failed :=
    goesOn.completable (exact.truncated ((goesOn.same free).symm.trans failed))
  noTrailing left failed := exact.noTrailing left ((goesOn.same free).symm.trans failed)

end GoesOnAs

theorem goesOnAs_literal {reader inner : Reader α} {c : Char}
    (same : ∀ text, reader (c :: text) = inner text) (empty : reader [] = .error .truncated) :
    reader.GoesOnAs [c] (fun _ => False) inner where
  same _ := same _
  refuses := False.elim
  ascii := False.elim
  short {before after} cut left := by
    cases before with
    | nil => exact ⟨.truncated, empty, .inl rfl⟩
    | cons first before =>
      have ending := (List.append_eq_nil_iff.mp (List.cons.inj cut).2.symm).2
      exact absurd ending left

theorem head?_ne_iff {stop : Char} {text : List Char} :
    (∀ c ∈ text.head?, c ≠ stop) ↔ ∀ tail, text ≠ stop :: tail := by
  cases text with
  | nil => simp
  | cons c tail => simp

theorem goesOnAs_unless {reader inner : Reader α} {stop : Char}
    (same : ∀ {text}, (∀ tail, text ≠ stop :: tail) → reader text = inner text)
    (refuses : ∀ tail, inner (stop :: tail) = .error (.unexpected stop tail))
    (ascii : stop.val.toNat ≤ 127) : reader.GoesOnAs [] (· = stop) inner where
  same free := same (head?_ne_iff.mp free)
  refuses := by
    rintro _ rfl
    exact refuses
  ascii := by
    rintro _ rfl
    exact ascii
  short cut left := absurd (List.append_eq_nil_iff.mp cut.symm).2 left

end Reader

/-! ## The readers of descriptors -/

theorem takes_readName {name : String} (wellFormed : ClassName.WellFormed name) :
    Reader.Takes readName (name.toList ++ [';']) name where
  whole more := by
    rw [List.append_assoc]
    exact readName_complete wellFormed more
  short {before after} cut left := by
    -- What is cut off at least is the semicolon, and the name itself holds none.
    have short : before <+: name.toList := by
      apply List.prefix_of_prefix_length_le ⟨after, cut.symm⟩ ⟨[';'], rfl⟩
      have sizes := congrArg List.length cut
      have nonempty := List.length_pos_iff.mpr left
      simp only [List.length_append, List.length_cons, List.length_nil] at sizes
      omega
    have missing : ';' ∉ before := fun member =>
      semicolon_not_mem wellFormed (short.subset member)
    exact ⟨.unterminatedName, readName_of_not_mem missing, .inr rfl⟩

theorem pinpoints_readName (unread : List Char) : Reader.Pinpoints readName unread := by
  cases read : readName unread with
  | ok result =>
    obtain ⟨name, rest⟩ := result
    obtain ⟨wellFormed, rfl⟩ := readName_sound read
    simpa using (takes_readName wellFormed).pinpoints rest
  | error fault =>
    have cause : fault = .unterminatedName ∨ ∃ name, fault = .invalidName name := by
      simp only [readName] at read
      split at read
      · cases read
        exact .inl rfl
      · split at read
        · cases read
        · cases read
          exact .inr ⟨_, rfl⟩
    have unplaced : ¬ Reader.Placed fault := by
      rcases cause with rfl | ⟨name, rfl⟩
      · exact id
      · exact id
    apply Reader.pinpoints_of_error read unplaced
    rintro rfl
    simp at cause

theorem readBase_literal : Reader.GoesOnAs readBase ['L'] (fun _ => False)
    (Reader.andThen readName fun name => Reader.done (.object name)) :=
  Reader.goesOnAs_literal (fun _ => rfl) rfl

theorem readBase_primitive (p : Primitive) :
    Reader.GoesOnAs readBase [p.code] (fun _ => False) (Reader.done (.primitive p)) := by
  have read := @readBase_complete (.primitive p) trivial rfl
  exact Reader.goesOnAs_literal read rfl

theorem takes_readBase_primitive (p : Primitive) :
    Reader.Takes readBase [p.code] (.primitive p) :=
  (readBase_primitive p).takes (Reader.takes_done _)

theorem readBase_stray {c : Char} (notName : c ≠ 'L') (notCode : Primitive.ofCode? c = none)
    (tail : List Char) : readBase (c :: tail) = .error (.unexpected c tail) := by
  simp [readBase, notName, notCode]

/-- What starts a type is ASCII, so a stray character shares its first byte with strays only. -/
theorem stray_of_sameLead {c other : Char} (same : SameLead other c) (notName : c ≠ 'L')
    (notCode : Primitive.ofCode? c = none) : other ≠ 'L' ∧ Primitive.ofCode? other = none := by
  have lead : SameLead c other := Eq.symm same
  constructor
  · rintro rfl
    exact notName (lead.eq_of_ascii (by decide))
  · cases found : Primitive.ofCode? other with
    | none => rfl
    | some p =>
      have code := ofCode?_sound found
      have again : c = other := lead.eq_of_ascii (by rw [code]; cases p <;> decide)
      rw [again, found] at notCode
      cases notCode

theorem pinpoints_readBase (unread : List Char) : Reader.Pinpoints readBase unread := by
  cases unread with
  | nil =>
    have failed : readBase [] = .error .truncated := rfl
    apply Reader.pinpoints_of_error failed id
    intro _
    exact ⟨[Primitive.int.code], _, takes_readBase_primitive .int⟩
  | cons c tail =>
    by_cases reference : c = 'L'
    · subst reference
      exact readBase_literal.pinpoints (fun _ _ => id) ((pinpoints_readName tail).andThen_done _)
    · cases found : Primitive.ofCode? c with
      | some p =>
        rw [ofCode?_sound found]
        exact (takes_readBase_primitive p).pinpoints tail
      | none =>
        have stray := readBase_stray reference found
        constructor
        · intro value rest read
          exact nomatch (stray tail).symm.trans read
        · intro offender following failed
          cases (stray tail).symm.trans failed
          refine ⟨[], rfl, ⟨[Primitive.int.code], _, takes_readBase_primitive .int⟩, ?_⟩
          intro other same more
          obtain ⟨notName, notCode⟩ := stray_of_sameLead same reference found
          exact readBase_stray notName notCode more
        · intro failed
          exact nomatch (stray tail).symm.trans failed
        · intro left failed
          exact nomatch (stray tail).symm.trans failed

theorem readType_brackets {count : Nat} (few : count ≤ maxDimensions) :
    Reader.GoesOnAs readType (List.replicate count '[') (· = '[')
      (Reader.andThen readBase fun base => Reader.done (.arrayOf count base)) where
  same := readType_replicate few
  refuses := by
    rintro _ rfl tail
    exact Reader.andThen_of_error rfl _
  ascii := by
    rintro _ rfl
    decide
  short {before after} cut _ := by
    obtain ⟨total, brackets, _⟩ := List.replicate_eq_append_iff.mp cut
    have fewer : before.length ≤ maxDimensions := by omega
    have ended : ∀ c ∈ ([] : List Char).head?, c ≠ '[' := by simp
    have read := readType_replicate fewer ended
    rw [← brackets, List.append_nil] at read
    exact ⟨.truncated, read, .inl rfl⟩

theorem pinpoints_readType (unread : List Char) : Reader.Pinpoints readType unread := by
  by_cases few : (unread.takeWhile (· == '[')).length ≤ maxDimensions
  · have free : ∀ c ∈ (unread.dropWhile (· == '[')).head?, c ≠ '[' := by
      intro c first
      have stopped := List.head?_dropWhile_not (· == '[') unread
      simp only [Option.mem_def.mp first] at stopped
      simpa using stopped
    have read := (readType_brackets few).pinpoints free ((pinpoints_readBase _).andThen_done _)
    rwa [← takeWhile_bracket, List.takeWhile_append_dropWhile] at read
  · have failed : readType unread = .error (.tooManyDimensions _) :=
      if_pos (Nat.not_le.mp few)
    exact Reader.pinpoints_of_error failed id nofun

theorem readReturn_void : Reader.GoesOnAs readReturn ['V'] (fun _ => False) (Reader.done .void) :=
  Reader.goesOnAs_literal (fun _ => rfl) rfl

theorem readReturn_value : Reader.GoesOnAs readReturn [] (· = 'V')
    (Reader.andThen readType fun type => Reader.done (.value type)) := by
  apply Reader.goesOnAs_unless
  · intro text notVoid
    exact readReturn.eq_2 text notVoid
  · intro tail
    exact Reader.andThen_of_error rfl _
  · decide

theorem pinpoints_readReturn (unread : List Char) : Reader.Pinpoints readReturn unread := by
  by_cases missing : ∃ tail, unread = 'V' :: tail
  · obtain ⟨tail, rfl⟩ := missing
    exact readReturn_void.pinpoints (fun _ _ => id) (Reader.pinpoints_done _ _)
  · have notVoid : ∀ tail, unread ≠ 'V' :: tail := fun tail same => missing ⟨tail, same⟩
    exact readReturn_value.pinpoints (Reader.head?_ne_iff.mpr notVoid)
      ((pinpoints_readType unread).andThen_done _)

theorem readParams_close :
    Reader.GoesOnAs readParams [')'] (fun _ => False) (Reader.done []) := by
  apply Reader.goesOnAs_literal readParams.eq_1
  rw [readParams_of_ne (by simp)]
  rfl

theorem readParams_another : Reader.GoesOnAs readParams [] (· = ')')
    (Reader.andThen readType fun type =>
      Reader.andThen readParams fun types => Reader.done (type :: types)) := by
  apply Reader.goesOnAs_unless
  · intro text notClosed
    exact readParams_of_ne notClosed
  · intro tail
    exact Reader.andThen_of_error rfl _
  · decide

theorem takes_readParams_nil : Reader.Takes readParams [')'] [] :=
  readParams_close.takes (Reader.takes_done [])

theorem pinpoints_readParams_of_ne {unread : List Char} (notClosed : ∀ tail, unread ≠ ')' :: tail)
    (others : ∀ {type rest}, readType unread = .ok (type, rest) →
      Reader.Pinpoints readParams rest) : Reader.Pinpoints readParams unread := by
  have ends : ∀ type : FieldType, Reader.Completable
      (Reader.andThen readParams fun types => Reader.done (type :: types)) [] := by
    intro type
    exact ⟨[')'], _, takes_readParams_nil.andThen_done _⟩
  apply readParams_another.pinpoints (Reader.head?_ne_iff.mpr notClosed)
  apply (pinpoints_readType unread).andThen _ ends
  intro type rest typed
  exact (others typed).andThen_done _

theorem pinpoints_readParams (unread : List Char) : Reader.Pinpoints readParams unread := by
  -- The reader recurses on what a type has left, so the induction follows its own.
  induction unread using readParams.induct with
  | case1 tail =>
    exact readParams_close.pinpoints (fun _ _ => id) (Reader.pinpoints_done _ _)
  | case2 unread notClosed fault failed =>
    apply pinpoints_readParams_of_ne notClosed
    intro type rest typed
    cases failed.symm.trans typed
  | case3 unread notClosed type left typed shorter ih =>
    apply pinpoints_readParams_of_ne notClosed
    intro type rest again
    cases typed.symm.trans again
    exact ih

theorem readMethod_open : Reader.GoesOnAs readMethod ['('] (fun _ => False)
    (Reader.andThen readParams fun params =>
      Reader.andThen readReturn fun result => Reader.done ⟨params, result⟩) :=
  Reader.goesOnAs_literal (fun _ => rfl) rfl

theorem takes_readReturn_void : Reader.Takes readReturn ['V'] .void :=
  readReturn_void.takes (Reader.takes_done ReturnType.void)

theorem pinpoints_readMethod (unread : List Char) : Reader.Pinpoints readMethod unread := by
  have ends : ∀ params : List FieldType, Reader.Completable
      (Reader.andThen readReturn fun result => Reader.done (MethodDescriptor.mk params result))
      [] := by
    intro params
    exact ⟨['V'], _, takes_readReturn_void.andThen_done _⟩
  cases unread with
  | nil =>
    have shortest := readMethod_open.takes
      (takes_readParams_nil.andThen (takes_readReturn_void.andThen_done _))
    have failed : readMethod [] = .error .truncated := rfl
    exact Reader.pinpoints_of_error failed id fun _ => ⟨_, _, shortest⟩
  | cons c tail =>
    by_cases opened : c = '('
    · subst opened
      apply readMethod_open.pinpoints (fun _ _ => id)
      apply (pinpoints_readParams tail).andThen _ ends
      intro params rest _
      exact (pinpoints_readReturn rest).andThen_done _
    · have failed : readMethod (c :: tail) = .error .noParameterList := by
        simp [readMethod, opened]
      exact Reader.pinpoints_of_error failed id nofun

end LambdaLowering.Descriptor
