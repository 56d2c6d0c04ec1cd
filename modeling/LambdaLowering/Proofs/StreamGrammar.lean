import LambdaLowering.Sink
import Mathlib.Computability.Language

/-! The grammar of class streams.

The grammar is a language over events. Its words are the event lists of classes, and a phase tells
which events can follow a part of a word.
-/

set_option autoImplicit false

namespace LambdaLowering

open scoped Computability

namespace ClassStream

def classHeader : Language Event := {word | ∃ header, word = [.classHeader header]}

def methodHeader : Language Event := {word | ∃ header, word = [.methodHeader header]}

def instruction : Language Event := {word | ∃ instruction, word = [.instruction instruction]}

def methodEnd : Language Event := {[.methodEnd]}

def classEnd : Language Event := {[.classEnd]}

/-- A class header, then methods with their instructions, then the class end. -/
def grammar : Language Event :=
  classHeader * (methodHeader * instruction∗ * methodEnd)∗ * classEnd

end ClassStream

def Event.declared? : Event → Option MethodSignature
  | .methodHeader header => some header.signature
  | _ => none

def declaredIn (events : List Event) : List MethodSignature := events.filterMap Event.declared?

/-- The stream of a whole class in which no two methods share name and descriptor. -/
structure IsClassStream (events : List Event) : Prop where
  word : events ∈ ClassStream.grammar
  distinct : (declaredIn events).Nodup

/-- The start of a stream that can still become that of a class, with no two methods that share
name and descriptor so far. -/
structure IsStreamPrefix (events : List Event) : Prop where
  completable : ∃ rest, events ++ rest ∈ ClassStream.grammar
  distinct : (declaredIn events).Nodup

@[simp] theorem declaredIn_append (first second : List Event) :
    declaredIn (first ++ second) = declaredIn first ++ declaredIn second :=
  List.filterMap_append

/-! ## Words of the grammar -/

theorem declaredIn_code (code : List Instruction) : declaredIn (code.map .instruction) = [] := by
  rw [declaredIn, List.filterMap_map]
  exact List.filterMap_eq_nil_iff.mpr fun _ _ => rfl

@[simp] theorem declaredIn_methodEvents (method : Method) :
    declaredIn method.events = [method.signature] := by
  have body := declaredIn_code method.code
  rw [Method.events, ← List.singleton_append, declaredIn_append, declaredIn_append, body]
  rfl

theorem declaredIn_methods (methods : List Method) :
    declaredIn (methods.flatMap Method.events) = methods.map Method.signature := by
  induction methods with
  | nil => rfl
  | cons method methods ih =>
    rw [List.flatMap_cons, declaredIn_append, declaredIn_methodEvents, ih]
    rfl

theorem declaredIn_events (file : ClassFile) :
    declaredIn file.events = file.methods.map Method.signature := by
  have methods := declaredIn_methods file.methods
  rw [ClassFile.events, ← List.singleton_append, declaredIn_append, declaredIn_append, methods]
  exact List.append_nil _

namespace ClassStream

theorem mem_kstar_iff_flatMap {α : Type} {part : Language Event} {spell : α → List Event}
    (parts : ∀ word, word ∈ part ↔ ∃ value, word = spell value) {word : List Event} :
    word ∈ part∗ ↔ ∃ values : List α, word = values.flatMap spell := by
  rw [Language.mem_kstar]
  constructor
  · intro repeated
    rcases repeated with ⟨words, rfl, each⟩
    induction words with
    | nil => exact ⟨[], rfl⟩
    | cons first words ih =>
      obtain ⟨value, rfl⟩ := (parts first).mp (each first List.mem_cons_self)
      obtain ⟨values, rest⟩ := ih fun word member => each word (List.mem_cons_of_mem _ member)
      exact ⟨value :: values, by rw [List.flatten_cons, rest, List.flatMap_cons]⟩
  · intro spelled
    rcases spelled with ⟨values, rfl⟩
    refine ⟨values.map spell, List.flatMap_def, ?_⟩
    intro word member
    obtain ⟨value, _, rfl⟩ := List.mem_map.mp member
    exact (parts _).mpr ⟨value, rfl⟩

theorem mem_instructions {word : List Event} :
    word ∈ instruction∗ ↔ ∃ code : List Instruction, word = code.map .instruction := by
  simp only [List.map_eq_flatMap]
  exact mem_kstar_iff_flatMap fun _ => Iff.rfl

theorem mem_method {word : List Event} :
    word ∈ methodHeader * instruction∗ * methodEnd ↔ ∃ method : Method, word = method.events := by
  constructor
  · intro member
    rcases member with ⟨_, ⟨_, ⟨header, rfl⟩, _, body, rfl⟩, _, rfl, rfl⟩
    obtain ⟨code, rfl⟩ := mem_instructions.mp body
    exact ⟨⟨header, code⟩, by simp [Method.events]⟩
  · intro spelled
    rcases spelled with ⟨method, rfl⟩
    have body := mem_instructions.mpr ⟨method.code, rfl⟩
    exact ⟨_, ⟨_, ⟨method.header, rfl⟩, _, body, rfl⟩, _, rfl, by simp [Method.events]⟩

/-- The words of the grammar are the event lists of classes. -/
theorem mem_grammar {word : List Event} :
    word ∈ grammar ↔ ∃ file : ClassFile, word = file.events := by
  constructor
  · intro member
    rcases member with ⟨_, ⟨_, ⟨header, rfl⟩, _, body, rfl⟩, _, rfl, rfl⟩
    obtain ⟨methods, rfl⟩ := (mem_kstar_iff_flatMap fun _ => mem_method).mp body
    exact ⟨⟨header, methods⟩, by simp [ClassFile.events]⟩
  · intro spelled
    rcases spelled with ⟨file, rfl⟩
    have body := (mem_kstar_iff_flatMap fun _ => mem_method).mpr ⟨file.methods, rfl⟩
    exact ⟨_, ⟨_, ⟨file.header, rfl⟩, _, body, rfl⟩, _, rfl, by simp [ClassFile.events]⟩

end ClassStream

/-! ## Phases -/

namespace StreamPhase

def next? : StreamPhase → Event → Option StreamPhase
  | .initial, .classHeader _ => some .inClass
  | .inClass, .methodHeader _ => some .inMethod
  | .inClass, .classEnd => some .finished
  | .inMethod, .instruction _ => some .inMethod
  | .inMethod, .methodEnd => some .inClass
  | _, _ => none

def after? (phase : StreamPhase) (events : List Event) : Option StreamPhase :=
  events.foldlM next? phase

theorem after?_append (phase : StreamPhase) (first second : List Event) :
    phase.after? (first ++ second) = (phase.after? first).bind (·.after? second) :=
  List.foldlM_append

theorem after?_singleton (phase : StreamPhase) (event : Event) :
    phase.after? [event] = phase.next? event := by
  simp [after?]

theorem after?_code (code : List Instruction) :
    inMethod.after? (code.map .instruction) = some inMethod := by
  induction code with
  | nil => rfl
  | cons one code ih => exact ih

theorem after?_methodEvents (method : Method) :
    inClass.after? method.events = some inClass := by
  have code := after?_code method.code
  rw [Method.events, ← List.singleton_append, after?_append, after?_singleton, next?,
    Option.bind_some, after?_append, code]
  rfl

theorem after?_methods (methods : List Method) :
    inClass.after? (methods.flatMap Method.events) = some inClass := by
  induction methods with
  | nil => rfl
  | cons method methods ih =>
    rw [List.flatMap_cons, after?_append, after?_methodEvents, Option.bind_some, ih]

theorem after?_events (file : ClassFile) : initial.after? file.events = some finished := by
  have methods := after?_methods file.methods
  rw [ClassFile.events, ← List.singleton_append, after?_append, after?_singleton, next?,
    Option.bind_some, after?_append, methods]
  rfl

end StreamPhase

theorem IsStreamPrefix.after? {events : List Event} (viable : IsStreamPrefix events) :
    (StreamPhase.initial.after? events).isSome := by
  obtain ⟨rest, word⟩ := viable.completable
  obtain ⟨file, whole⟩ := ClassStream.mem_grammar.mp word
  -- The word that the stream can become runs through, so its start does.
  have finished := StreamPhase.after?_events file
  rw [← whole, StreamPhase.after?_append] at finished
  exact Option.isSome_of_mem (Option.bind_eq_some_iff.mp finished).choose_spec.1

end LambdaLowering
