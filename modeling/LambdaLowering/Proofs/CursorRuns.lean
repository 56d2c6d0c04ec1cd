import LambdaLowering.Proofs.DescriptorCursor

/-! The cursor over a descriptor text gives the answer of the readers and never leaves the text.

What is left to do at a point is a reader for the characters that are left. A step takes some of
them and leaves the reader's answer as it is. So the cursor always stands before a character, and a
measure of the bytes that are left bounds the run.
-/

set_option autoImplicit false

namespace LambdaLowering

namespace DescriptorCursor

open Descriptor

/-! ## What is left to read -/

def resultReader (params : List FieldType) : Reader Value :=
  Reader.andThen readReturn fun result => Reader.done (.method ⟨params, result⟩)

def paramsReader (read : List FieldType) : Reader Value :=
  Reader.andThen readParams fun types => resultReader (read ++ types)

def Use.reader : Use → FieldType → Reader Value
  | .whole, type => Reader.done (.type type)
  | .param earlier, type => paramsReader (earlier ++ [type])
  | .result params, type => Reader.done (.method ⟨params, .value type⟩)

/-- What is left to read at a point. Brackets that have been passed count as unread. -/
def Point.reader : Point → Reader Value
  | .opening => Reader.andThen readMethod fun descriptor => Reader.done (.method descriptor)
  | .params read => paramsReader read
  | .closing types => paramsReader types
  | .result types => resultReader types
  | .brackets use count => fun unread =>
    Reader.andThen readType use.reader (List.replicate count '[' ++ unread)
  | .base use count => Reader.andThen readBase fun base => use.reader (.arrayOf count base)
  | .name use count =>
    Reader.andThen readName fun name => use.reader (.arrayOf count (.object name))
  | .nameEnd use count _ =>
    Reader.andThen readName fun name => use.reader (.arrayOf count (.object name))
  | .ending value => Reader.done value

theorem Use.reader_next (use : Use) (type : FieldType) :
    (use.next type).reader = use.reader type := by
  cases use <;> rfl

theorem reader_opening (unread : List Char) :
    Point.opening.reader ('(' :: unread) = (Point.params []).reader unread := by
  have read : readMethod ('(' :: unread) =
      Reader.andThen readParams (fun params =>
        Reader.andThen readReturn fun result => Reader.done ⟨params, result⟩) unread := rfl
  simp only [Point.reader, paramsReader, resultReader, Reader.andThen, List.nil_append, read]
  cases readParams unread with
  | error fault => rfl
  | ok first =>
    simp only [bind, Except.bind]
    cases readReturn first.2 <;> rfl

theorem reader_params {read : List FieldType} {unread : List Char}
    (another : ∀ tail, unread ≠ ')' :: tail) :
    (Point.params read).reader unread = (Point.brackets (.param read) 0).reader unread := by
  simp only [Point.reader, Use.reader, paramsReader, Reader.andThen, readParams_of_ne another,
    List.replicate_zero, List.nil_append, List.append_assoc]
  cases readType unread with
  | error fault => rfl
  | ok first =>
    simp only [bind, Except.bind]
    cases readParams first.2 <;> rfl

theorem reader_closing (params : List FieldType) (unread : List Char) :
    (Point.closing params).reader (')' :: unread) = (Point.result params).reader unread := by
  have read := Reader.andThen_of_ok (readParams.eq_1 unread) fun types =>
    resultReader (params ++ types)
  rw [List.append_nil] at read
  exact read

theorem reader_result {params : List FieldType} {unread : List Char}
    (present : ∀ tail, unread ≠ 'V' :: tail) :
    (Point.result params).reader unread = (Point.brackets (.result params) 0).reader unread := by
  simp only [Point.reader, resultReader, Use.reader, Reader.andThen, readReturn.eq_2 unread present,
    List.replicate_zero, List.nil_append]
  cases readType unread <;> rfl

theorem reader_brackets_cons (use : Use) (count : Nat) (unread : List Char) :
    (Point.brackets use count).reader ('[' :: unread) =
      (Point.brackets use (count + 1)).reader unread := by
  simp only [Point.reader, List.replicate_succ', List.append_assoc, List.singleton_append]

theorem reader_brackets {use : Use} {count : Nat} {unread : List Char}
    (passed : ∀ tail, unread ≠ '[' :: tail) (few : count ≤ maxDimensions) :
    (Point.brackets use count).reader unread = (Point.base use count).reader unread := by
  have free : ∀ c ∈ unread.head?, c ≠ '[' := Reader.head?_ne_iff.mpr passed
  simp only [Point.reader, Reader.andThen, readType_replicate few free]
  cases readBase unread <;> rfl

theorem reader_brackets_of_tooMany {use : Use} {count : Nat} {unread : List Char}
    (passed : ∀ tail, unread ≠ '[' :: tail) (many : maxDimensions < count) :
    (Point.brackets use count).reader unread = .error (.tooManyDimensions count) :=
  Reader.andThen_of_error (readType_of_tooMany many (Reader.head?_ne_iff.mpr passed)) use.reader

theorem reader_base_name (use : Use) (count : Nat) (unread : List Char) :
    (Point.base use count).reader ('L' :: unread) = (Point.name use count).reader unread := by
  have read : readBase ('L' :: unread) =
      Reader.andThen readName (fun name => Reader.done (.object name)) unread := rfl
  simp only [Point.reader, Reader.andThen, read]
  cases readName unread <;> rfl

theorem reader_base_primitive {use : Use} {count : Nat} {c : Char} {p : Primitive}
    (found : Primitive.ofCode? c = some p) (unread : List Char) :
    (Point.base use count).reader (c :: unread) =
      (use.next (.arrayOf count (.primitive p))).reader unread := by
  rw [ofCode?_sound found, Use.reader_next]
  exact Reader.andThen_of_ok ((takes_readBase_primitive p).whole unread)
    fun base => use.reader (.arrayOf count base)

theorem reader_base_stray {use : Use} {count : Nat} {c : Char} (notName : c ≠ 'L')
    (notCode : Primitive.ofCode? c = none) (unread : List Char) :
    (Point.base use count).reader (c :: unread) = .error (.unexpected c unread) :=
  Reader.andThen_of_error (readBase_stray notName notCode unread)
    fun base => use.reader (.arrayOf count base)

/-! ## Answers -/

/-- The answer for the whole text, from the one of a reader that may stop before its end. -/
def conclude (text : String) (read : Except DescriptorFault (Value × List Char)) :
    Except String Value :=
  (readWhole (fun _ => read) text).mapError DescriptorError.message

theorem conclude_reader {α : Type} (reader : Reader α) (build : α → Value) (text : String) :
    conclude text (Reader.andThen reader (fun value => Reader.done (build value)) text.toList) =
      ((readWhole reader text).map build).mapError DescriptorError.message := by
  simp only [conclude, readWhole, Reader.andThen]
  cases reader text.toList with
  | error fault => rfl
  | ok first =>
    obtain ⟨value, left⟩ := first
    cases left <;> rfl

/-! ## What holds between steps -/

/-- What a point takes for granted of its position and of the characters from there on. -/
def Point.Guard (position : Nat) (unread : List Char) : Point → Prop
  | .closing _ => ∃ tail, unread = ')' :: tail
  | .brackets _ count => count ≤ position
  | .nameEnd _ _ length =>
    ∃ name rest, ';' ∉ name ∧ unread = name ++ ';' :: rest ∧ length = String.utf8Len name
  | _ => True

/-- The cursor stands before these characters, and the answer is the one that the reader of its
point gives for them. -/
structure Sound (text : String) (answer : Except String Value) (state : State)
    (unread : List Char) : Prop where
  place : UnreadAt text state.position unread
  answer : conclude text (state.point.reader unread) = answer
  guard : state.point.Guard state.position unread

def Point.weight : Point → Nat
  | .params _ | .result _ => 3
  | .brackets .. => 2
  | .base .. | .name .. => 1
  | .opening | .closing _ | .nameEnd .. | .ending _ => 0

theorem Point.weight_le (point : Point) : point.weight ≤ 3 := by
  cases point <;> simp [Point.weight]

/-- A byte that is left counts for more than any weight. -/
def rank (text : String) (state : State) : Nat :=
  4 * (text.utf8ByteSize - state.position) + state.point.weight

theorem rank_lt_of_position_lt {text : String} {state next : State}
    (further : state.position < next.position) (inside : next.position ≤ text.utf8ByteSize) :
    rank text next < rank text state := by
  have light := next.point.weight_le
  unfold rank
  omega

/-- A step that takes such a state to another one, nearer to the end, or that stops with the
answer. -/
def Advances (text : String) (answer : Except String Value) (state : State) : Outcome → Prop
  | .goesOn next => rank text next < rank text state ∧ ∃ unread, Sound text answer next unread
  | .stops position given => position ≤ text.utf8ByteSize ∧ given = answer
  | .panics => False

namespace Sound

variable {text : String} {answer : Except String Value} {state next : State}
  {unread left : List Char}

theorem inside (sound : Sound text answer state unread) : state.position ≤ text.utf8ByteSize :=
  sound.place.position_le

theorem moves (sound : Sound text answer state unread)
    (place : UnreadAt text next.position left) (further : state.position < next.position)
    (same : state.point.reader unread = next.point.reader left)
    (guard : next.point.Guard next.position left) :
    Advances text answer state (.goesOn next) :=
  ⟨rank_lt_of_position_lt further place.position_le, left, place, same ▸ sound.answer, guard⟩

theorem stays {position : Nat} {point other : Point}
    (sound : Sound text answer ⟨position, point⟩ unread) (lighter : other.weight < point.weight)
    (same : point.reader unread = other.reader unread) (guard : other.Guard position unread) :
    Advances text answer ⟨position, point⟩ (.goesOn ⟨position, other⟩) :=
  ⟨Nat.add_lt_add_left lighter _, unread, sound.place, same ▸ sound.answer, guard⟩

theorem refused (sound : Sound text answer state unread) {fault : DescriptorFault}
    (failed : state.point.reader unread = .error fault) {position : Nat}
    (inside : position ≤ text.utf8ByteSize) :
    Advances text answer state (refuse text position fault) :=
  ⟨inside, by rw [← sound.answer, failed]; rfl⟩

end Sound

theorem guard_next (use : Use) (type : FieldType) (position : Nat) (unread : List Char) :
    (use.next type).Guard position unread := by
  cases use <;> trivial

/-! ## One step -/

section

variable {text : String} {answer : Except String Value} {position : Nat} {unread : List Char}

theorem advances_opening (sound : Sound text answer ⟨position, .opening⟩ unread) :
    Advances text answer ⟨position, .opening⟩ (step text ⟨position, .opening⟩) := by
  cases unread with
  | nil =>
    have stepped : step text ⟨position, .opening⟩ = refuse text position .truncated := by
      simp only [step, sound.place.byteAt_nil]
    rw [stepped]
    exact sound.refused rfl sound.inside
  | cons c tail =>
    obtain ⟨lead, byte, leads⟩ := sound.place.byteAt_cons
    by_cases opens : c = '('
    · subst opens
      have stepped : step text ⟨position, .opening⟩ = .goesOn ⟨position + 1, .params []⟩ := by
        simp only [step, byte, if_pos ((beq_toUInt8_iff leads (by decide)).mpr rfl)]
      rw [stepped]
      exact sound.moves (sound.place.cons (by decide)) (Nat.lt_succ_self _) (reader_opening tail)
        trivial
    · have stepped :
          step text ⟨position, .opening⟩ = refuse text (position + 1) .noParameterList := by
        simp only [step, byte, if_neg (mt (beq_toUInt8_iff leads (by decide)).mp opens)]
      rw [stepped]
      have failed : readMethod (c :: tail) = .error .noParameterList := by
        simp [readMethod, opens]
      exact sound.refused
        (Reader.andThen_of_error failed fun descriptor => Reader.done (Value.method descriptor))
        sound.place.lt_of_cons

theorem advances_params {read : List FieldType}
    (sound : Sound text answer ⟨position, .params read⟩ unread) :
    Advances text answer ⟨position, .params read⟩ (step text ⟨position, .params read⟩) := by
  have looks := sound.place.looksAt_iff (c := ')') (by decide)
  by_cases closes : looksAt text position ')' = true
  · simp only [step, if_pos closes]
    exact sound.stays (by simp [Point.weight]) rfl (looks.mp closes)
  · simp only [step, if_neg closes]
    have another : ∀ tail, unread ≠ ')' :: tail := fun tail same => closes (looks.mpr ⟨tail, same⟩)
    exact sound.stays (by simp [Point.weight]) (reader_params another) (Nat.zero_le _)

theorem advances_closing {params : List FieldType}
    (sound : Sound text answer ⟨position, .closing params⟩ unread) :
    Advances text answer ⟨position, .closing params⟩ (step text ⟨position, .closing params⟩) := by
  obtain ⟨tail, rfl⟩ := sound.guard
  exact sound.moves (sound.place.cons (by decide)) (Nat.lt_succ_self _)
    (reader_closing params tail) trivial

theorem advances_result {params : List FieldType}
    (sound : Sound text answer ⟨position, .result params⟩ unread) :
    Advances text answer ⟨position, .result params⟩ (step text ⟨position, .result params⟩) := by
  have looks := sound.place.looksAt_iff (c := 'V') (by decide)
  by_cases missing : looksAt text position 'V' = true
  · simp only [step, if_pos missing]
    obtain ⟨tail, rfl⟩ := looks.mp missing
    exact sound.moves (sound.place.cons (by decide)) (Nat.lt_succ_self _) rfl trivial
  · simp only [step, if_neg missing]
    have present : ∀ tail, unread ≠ 'V' :: tail := fun tail same => missing (looks.mpr ⟨tail, same⟩)
    exact sound.stays (by simp [Point.weight]) (reader_result present) (Nat.zero_le _)

theorem advances_brackets {use : Use} {count : Nat}
    (sound : Sound text answer ⟨position, .brackets use count⟩ unread) :
    Advances text answer ⟨position, .brackets use count⟩
      (step text ⟨position, .brackets use count⟩) := by
  have looks := sound.place.looksAt_iff (c := '[') (by decide)
  have counted : count ≤ position := sound.guard
  by_cases another : looksAt text position '[' = true
  · simp only [step, if_pos another]
    obtain ⟨tail, rfl⟩ := looks.mp another
    exact sound.moves (sound.place.cons (by decide)) (Nat.lt_succ_self _)
      (reader_brackets_cons use count tail) (Nat.succ_le_succ counted)
  · have passed : ∀ tail, unread ≠ '[' :: tail := fun tail same => another (looks.mpr ⟨tail, same⟩)
    by_cases many : count > maxDimensions
    · simp only [step, if_neg another, if_pos many]
      exact sound.refused (reader_brackets_of_tooMany passed many) sound.inside
    · simp only [step, if_neg another, if_neg many]
      exact sound.stays (by simp [Point.weight]) (reader_brackets passed (Nat.not_lt.mp many))
        trivial

theorem advances_base {use : Use} {count : Nat}
    (sound : Sound text answer ⟨position, .base use count⟩ unread) :
    Advances text answer ⟨position, .base use count⟩ (step text ⟨position, .base use count⟩) := by
  cases unread with
  | nil =>
    have stepped : step text ⟨position, .base use count⟩ = refuse text position .truncated := by
      simp only [step, sound.place.byteAt_nil]
    rw [stepped]
    exact sound.refused rfl sound.inside
  | cons c tail =>
    obtain ⟨lead, byte, leads⟩ := sound.place.byteAt_cons
    by_cases reference : c = 'L'
    · subst reference
      have stepped :
          step text ⟨position, .base use count⟩ = .goesOn ⟨position + 1, .name use count⟩ := by
        simp only [step, byte, if_pos ((beq_toUInt8_iff leads (by decide)).mpr rfl)]
      rw [stepped]
      exact sound.moves (sound.place.cons (by decide)) (Nat.lt_succ_self _)
        (reader_base_name use count tail) trivial
    · have notName := mt (beq_toUInt8_iff leads (by decide)).mp reference
      cases found : Primitive.ofCode? c with
      | some p =>
        have stepped : step text ⟨position, .base use count⟩ =
            .goesOn ⟨position + 1, use.next (.arrayOf count (.primitive p))⟩ := by
          simp only [step, byte, if_neg notName, ofNat_eq_leadByte leads, ofCode?_leadByte, found]
        have ascii : c.val.toNat ≤ 127 := by
          rw [ofCode?_sound found]
          cases p <;> decide
        rw [stepped]
        exact sound.moves (sound.place.cons ascii) (Nat.lt_succ_self _)
          (reader_base_primitive found tail) (guard_next _ _ _ _)
      | none =>
        -- The message shows the byte under the cursor and the position that it was read at.
        have stepped : step text ⟨position, .base use count⟩ =
            refuse text (position + 1) (.unexpected c tail) := by
          simp only [step, byte, if_neg notName, ofNat_eq_leadByte leads, ofCode?_leadByte, found,
            refuse, DescriptorError.message, sound.place.offset_eq]
        rw [stepped]
        exact sound.refused (reader_base_stray reference found tail) sound.place.lt_of_cons

theorem advances_name {use : Use} {count : Nat}
    (sound : Sound text answer ⟨position, .name use count⟩ unread) :
    Advances text answer ⟨position, .name use count⟩ (step text ⟨position, .name use count⟩) := by
  simp only [step, sound.place.cut?_rest, utf8Bytes_ofList]
  by_cases ended : ';' ∈ unread
  · obtain ⟨name, rest, rfl, free⟩ := List.eq_append_cons_of_mem ended
    rw [findIdx?_eq_some (by decide) free]
    exact sound.stays (by simp [Point.weight]) rfl ⟨name, rest, free, rfl, rfl⟩
  · rw [findIdx?_eq_none (by decide) ended]
    exact sound.refused
      (Reader.andThen_of_error (readName_of_not_mem ended) fun name =>
        use.reader (.arrayOf count (.object name)))
      sound.inside

theorem advances_nameEnd {use : Use} {count length : Nat}
    (sound : Sound text answer ⟨position, .nameEnd use count length⟩ unread) :
    Advances text answer ⟨position, .nameEnd use count length⟩
      (step text ⟨position, .nameEnd use count length⟩) := by
  obtain ⟨name, rest, free, rfl, rfl⟩ := sound.guard
  simp only [step, sound.place.cut?_eq, String.toList_ofList]
  have read := readName_append free rest
  by_cases valid : isValidName name = true
  · rw [if_pos valid] at read
    rw [if_pos valid]
    apply sound.moves
    · exact sound.place.append.cons (by decide)
    · show position < position + (String.utf8Len name + 1)
      omega
    · rw [Use.reader_next]
      exact Reader.andThen_of_ok read fun name => use.reader (.arrayOf count (.object name))
    · exact guard_next _ _ _ _
  · rw [if_neg valid] at read
    rw [if_neg valid]
    exact sound.refused
      (Reader.andThen_of_error read fun name => use.reader (.arrayOf count (.object name)))
      sound.inside

theorem advances_ending {value : Value}
    (sound : Sound text answer ⟨position, .ending value⟩ unread) :
    Advances text answer ⟨position, .ending value⟩ (step text ⟨position, .ending value⟩) := by
  cases unread with
  | nil =>
    have size : text.utf8ByteSize = position := sound.place.utf8ByteSize_eq
    have stepped : step text ⟨position, .ending value⟩ = .stops position (.ok value) :=
      if_pos (beq_iff_eq.mpr size.symm)
    rw [stepped]
    exact ⟨sound.inside, sound.answer⟩
  | cons c tail =>
    have before : position < text.utf8ByteSize := sound.place.lt_of_cons
    have stepped : step text ⟨position, .ending value⟩ =
        refuse text position (.trailing (c :: tail)) := by
      simp only [step, refuse, DescriptorError.message, sound.place.offset_eq]
      exact if_neg (by rw [beq_iff_eq]; omega)
    rw [stepped]
    exact ⟨sound.inside, sound.answer⟩

/-- No step panics or loses the answer, and each one brings the run nearer to its end. -/
theorem Sound.advances {state : State} (sound : Sound text answer state unread) :
    Advances text answer state (step text state) := by
  obtain ⟨position, point⟩ := state
  cases point with
  | opening => exact advances_opening sound
  | params read => exact advances_params sound
  | closing params => exact advances_closing sound
  | result params => exact advances_result sound
  | brackets use count => exact advances_brackets sound
  | base use count => exact advances_base sound
  | name use count => exact advances_name sound
  | nameEnd use count length => exact advances_nameEnd sound
  | ending value => exact advances_ending sound

end

/-! ## Reading one type -/

def Point.use? : Point → Option Use
  | .brackets use _ | .base use _ | .name use _ | .nameEnd use _ _ => some use
  | .opening | .params _ | .closing _ | .result _ | .ending _ => none

/-- What a step leads to while a type is being read: it is still being read, or it has been read and
the cursor has moved, or there is an error. Panics are not looked at here. -/
def StaysOrReads (use : Use) (position : Nat) : Outcome → Prop
  | .goesOn next =>
    (next.point.use? = some use ∧ position ≤ next.position) ∨
      ∃ further type, position < further ∧ next = ⟨further, use.next type⟩
  | .stops _ answer => ∃ message, answer = .error message
  | .panics => True

theorem staysOrReads_step {text : String} {position : Nat} {point : Point} {use : Use}
    (reading : point.use? = some use) :
    StaysOrReads use position (step text ⟨position, point⟩) := by
  cases point with
  | brackets other count =>
    cases reading
    simp only [step]
    split
    · exact .inl ⟨rfl, Nat.le_succ position⟩
    · split
      · exact ⟨_, rfl⟩
      · exact .inl ⟨rfl, Nat.le_refl position⟩
  | base other count =>
    cases reading
    simp only [step]
    split
    · exact ⟨_, rfl⟩
    · split
      · exact .inl ⟨rfl, Nat.le_succ position⟩
      · split
        · exact .inr ⟨_, _, Nat.lt_succ_self position, rfl⟩
        · exact ⟨_, rfl⟩
  | name other count =>
    cases reading
    simp only [step]
    split
    · trivial
    · split
      · exact ⟨_, rfl⟩
      · exact .inl ⟨rfl, Nat.le_refl position⟩
  | nameEnd other count length =>
    cases reading
    simp only [step]
    split
    · trivial
    · split
      · exact .inr ⟨_, _, Nat.lt_add_of_pos_right (Nat.succ_pos length), rfl⟩
      · exact ⟨_, rfl⟩
  | opening | params | closing | result | ending => cases reading

/-! ## Runs -/

def Steps (text : String) (state next : State) : Prop := step text state = .goesOn next

def Reaches (text : String) : State → State → Prop := Relation.ReflTransGen (Steps text)

def StepsWithin (text : String) (use : Use) (state next : State) : Prop :=
  step text state = .goesOn next ∧ next.point.use? = some use

/-- A type for this use is read from the state on: with an error, or up to a place beyond this
position, where the run goes on with what comes next. -/
def ReadsType (text : String) (use : Use) (position : Nat) (state : State) : Prop :=
  ∃ last, Relation.ReflTransGen (StepsWithin text use) state last ∧
    ((∃ place message, step text last = .stops place (.error message)) ∨
      ∃ further type, position < further ∧ step text last = .goesOn ⟨further, use.next type⟩)

namespace Sound

variable {text : String} {answer : Except String Value} {state last : State} {unread : List Char}

theorem reaches (sound : Sound text answer state unread) (run : Reaches text state last) :
    ∃ left, Sound text answer last left := by
  induction run with
  | refl => exact ⟨unread, sound⟩
  | tail _ stepped ih =>
    obtain ⟨left, before⟩ := ih
    have advanced := before.advances
    rw [stepped] at advanced
    exact advanced.2

/-- Every step lowers the rank, so what holds of a state that stops with the answer, and of a state
if it holds of the next one, holds of all such states. -/
theorem induction {motive : State → Prop}
    (stops : ∀ {state position}, step text state = .stops position answer → motive state)
    (goesOn : ∀ {state next}, step text state = .goesOn next → motive next → motive state)
    (sound : Sound text answer state unread) : motive state := by
  induction bound : rank text state using Nat.strong_induction_on generalizing state unread with
  | h _ ih =>
    subst bound
    have advanced := sound.advances
    cases stepped : step text state with
    | goesOn next =>
      rw [stepped] at advanced
      obtain ⟨nearer, left, after⟩ := advanced
      exact goesOn stepped (ih _ nearer after rfl)
    | stops position given =>
      rw [stepped] at advanced
      exact stops (advanced.2 ▸ stepped)
    | panics =>
      rw [stepped] at advanced
      exact advanced.elim

theorem stops (sound : Sound text answer state unread) :
    ∃ last position, Reaches text state last ∧ step text last = .stops position answer := by
  apply sound.induction
  · intro state position stopped
    exact ⟨state, position, .refl, stopped⟩
  · intro state next stepped ih
    obtain ⟨last, position, run, stopped⟩ := ih
    exact ⟨last, position, run.head stepped, stopped⟩

theorem readsType (sound : Sound text answer state unread) {use : Use}
    (reading : state.point.use? = some use) : ReadsType text use state.position state := by
  revert reading
  apply sound.induction
  · intro state position stopped reading
    have leads : StaysOrReads use state.position (step text state) := staysOrReads_step reading
    rw [stopped] at leads
    obtain ⟨message, rfl⟩ := leads
    exact ⟨state, .refl, .inl ⟨position, message, stopped⟩⟩
  · intro state next stepped ih reading
    have leads : StaysOrReads use state.position (step text state) := staysOrReads_step reading
    rw [stepped] at leads
    rcases leads with ⟨still, further⟩ | ⟨further, type, beyond, rfl⟩
    · obtain ⟨last, run, ending⟩ := ih still
      refine ⟨last, run.head ⟨stepped, still⟩, ending.imp_right ?_⟩
      rintro ⟨place, type, beyond, read⟩
      exact ⟨place, type, Nat.lt_of_le_of_lt further beyond, read⟩
    · exact ⟨state, .refl, .inr ⟨further, type, beyond, stepped⟩⟩

theorem readsType_params {position : Nat} {read : List FieldType}
    (sound : Sound text answer ⟨position, .params read⟩ unread)
    (another : ¬ looksAt text position ')' = true) :
    ReadsType text (.param read) position ⟨position, .params read⟩ := by
  have advanced := sound.advances
  have stepped : step text ⟨position, .params read⟩ =
      .goesOn ⟨position, .brackets (.param read) 0⟩ := if_neg another
  rw [stepped] at advanced
  obtain ⟨_, left, after⟩ := advanced
  obtain ⟨last, run, ending⟩ := after.readsType rfl
  exact ⟨last, run.head ⟨stepped, rfl⟩, ending⟩

end Sound

/-- The run from this state on. There is just one, as a step leads to one state at most. -/
structure RunsSafely (text : String) (start : State) (answer : Except String Value) : Prop where
  /-- It ends with the answer. -/
  stops : ∃ last position, Reaches text start last ∧ step text last = .stops position answer
  noPanic : ∀ {state}, Reaches text start state → step text state ≠ .panics
  inside : ∀ {state}, Reaches text start state → state.position ≤ text.utf8ByteSize
  insideAtStop : ∀ {state position given}, Reaches text start state →
    step text state = .stops position given → position ≤ text.utf8ByteSize
  /-- The counter of brackets stays as small as the position. -/
  bracketCount : ∀ {position use count}, Reaches text start ⟨position, .brackets use count⟩ →
    count ≤ position
  nameStart : ∀ {position use count}, Reaches text start ⟨position, .name use count⟩ →
    IsBoundary text position
  nameEnd : ∀ {position use count length},
    Reaches text start ⟨position, .nameEnd use count length⟩ →
      IsBoundary text position ∧ IsBoundary text (position + length)
  /-- What the cursor passes at the end of the loop over the parameters is a parenthesis. -/
  closing : ∀ {position params}, Reaches text start ⟨position, .closing params⟩ →
    byteAt text position = some ')'.toUInt8
  /-- A pass of that loop fails, or it reaches the next head of the loop further on in the text. -/
  pass : ∀ {position read}, Reaches text start ⟨position, .params read⟩ →
    byteAt text position ≠ some ')'.toUInt8 →
      ReadsType text (.param read) position ⟨position, .params read⟩

theorem Sound.runsSafely {text : String} {answer : Except String Value} {start : State}
    {unread : List Char} (sound : Sound text answer start unread) :
    RunsSafely text start answer where
  stops := sound.stops
  noPanic run panics := by
    obtain ⟨left, after⟩ := sound.reaches run
    have advanced := after.advances
    rw [panics] at advanced
    exact advanced
  inside run := by
    obtain ⟨left, after⟩ := sound.reaches run
    exact after.inside
  insideAtStop run stopped := by
    obtain ⟨left, after⟩ := sound.reaches run
    have advanced := after.advances
    rw [stopped] at advanced
    exact advanced.1
  bracketCount run := by
    obtain ⟨left, after⟩ := sound.reaches run
    exact after.guard
  nameStart run := by
    obtain ⟨left, after⟩ := sound.reaches run
    exact after.place.isBoundary
  nameEnd run := by
    obtain ⟨left, after⟩ := sound.reaches run
    obtain ⟨name, rest, free, rfl, rfl⟩ := after.guard
    exact ⟨after.place.isBoundary, after.place.append.isBoundary⟩
  closing run := by
    obtain ⟨left, after⟩ := sound.reaches run
    exact beq_iff_eq.mp ((after.place.looksAt_iff (by decide)).mpr after.guard)
  pass run another := by
    obtain ⟨left, after⟩ := sound.reaches run
    exact after.readsType_params (mt beq_iff_eq.mp another)

end DescriptorCursor

open DescriptorCursor in
/-- Whatever the text is, reading it with a cursor over its bytes as a descriptor, or as a type,
ends with the answer of the readers. Up to then the cursor stays inside the text and nothing is cut
in the middle of a character. -/
theorem parse_runsSafely (text : String) :
    RunsSafely text ⟨0, .opening⟩
      (((MethodDescriptor.parse text).map .method).mapError DescriptorError.message) ∧
    RunsSafely text ⟨0, .brackets .whole 0⟩
      (((FieldType.parse text).map .type).mapError DescriptorError.message) := by
  constructor
  · have sound : Sound text _ ⟨0, .opening⟩ text.toList :=
      ⟨.start text, conclude_reader Descriptor.readMethod .method text, trivial⟩
    exact sound.runsSafely
  · have sound : Sound text _ ⟨0, .brackets .whole 0⟩ text.toList :=
      ⟨.start text, conclude_reader Descriptor.readType .type text, Nat.le_refl 0⟩
    exact sound.runsSafely

end LambdaLowering
