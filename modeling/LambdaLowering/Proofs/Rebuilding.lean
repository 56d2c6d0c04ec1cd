import LambdaLowering.Proofs.StreamedLowering

/-! A class streamed into a builder is built again.

Stream and builder undo each other for every class in which no two methods share name and
descriptor. Any other class is refused at the first method that repeats an earlier one, and nothing
can be finished from what came before.
-/

set_option autoImplicit false

namespace LambdaLowering

variable {S : Type}

theorem Malformation.message_duplicateMethod (signature : MethodSignature) :
    (duplicateMethod signature).message =
      "Duplicate method " ++ signature.name ++ signature.descriptor.text := by
  have parts : "Duplicate method " ++ (signature.name ++ signature.descriptor.text) =
      "Duplicate method " ++ signature.name ++ signature.descriptor.text :=
    String.append_assoc.symm
  unfold message
  exact parts

/-! ## The first repetition -/

/-- The first of the methods whose name and descriptor an earlier one has, and all that are
earlier. -/
structure FirstRepeated (methods before : List Method) (method : Method) : Prop where
  starts : before ++ [method] <+: methods
  distinct : (before.map Method.signature).Nodup
  taken : method.signature ∈ before.map Method.signature

theorem exists_firstRepeated {methods : List Method}
    (repeats : ¬ (methods.map Method.signature).Nodup) :
    ∃ before method, FirstRepeated methods before method := by
  induction methods using List.reverseRecOn with
  | nil => exact absurd List.nodup_nil repeats
  | append_singleton methods last ih =>
    by_cases distinct : (methods.map Method.signature).Nodup
    · -- All is well up to the last method, so it is the last that repeats another.
      refine ⟨methods, last, List.prefix_rfl, distinct, ?_⟩
      by_contra new
      apply repeats
      rw [List.map_append, List.map_singleton, ← List.concat_eq_append]
      exact List.Nodup.concat new distinct
    · obtain ⟨before, method, starts, earlier, taken⟩ := ih distinct
      exact ⟨before, method, starts.trans (List.prefix_append _ _), earlier, taken⟩

/-! ## Methods in a builder -/

namespace ClassBuilder

theorem streamTo_method_free {header : ClassHeader} {methods : Array Method} {method : Method}
    (free : method.signature ∉ methods.toList.map Method.signature) (state : S) :
    method.streamTo sink (.inClass header methods, state) =
      .ok () (.inClass header (methods.push method), state) := by
  rw [streamTo_method, demandFree, if_neg free]

theorem streamTo_method_taken {header : ClassHeader} {methods : Array Method} {method : Method}
    (taken : method.signature ∈ methods.toList.map Method.signature) (state : S) :
    method.streamTo sink (.inClass header methods, state) =
      .error (.malformed (.duplicateMethod method.signature)) (.inClass header methods, state) := by
  rw [streamTo_method, demandFree, if_pos taken]

/-- The run lemma. A builder takes methods that differ among themselves and from those it holds. -/
theorem forM_streamTo_of_nodup (header : ClassHeader) (held : Array Method) {methods : List Method}
    (distinct : ((held.toList ++ methods).map Method.signature).Nodup) (state : S) :
    methods.forM (·.streamTo sink) (.inClass header held, state) =
      .ok () (.inClass header (held ++ methods.toArray), state) := by
  induction methods generalizing held with
  | nil => simp
  | cons method methods ih =>
    have free : method.signature ∉ held.toList.map Method.signature := by
      rw [List.map_append, List.nodup_append] at distinct
      intro member
      exact distinct.2.2 _ member _ (by simp) rfl
    -- What is held next is what was held, with the method behind it.
    have next : (held.push method).toList ++ methods = held.toList ++ method :: methods := by simp
    rw [Action.forM_cons, Action.bind_of_ok (streamTo_method_free free state),
      ih _ (next ▸ distinct)]
    simp

theorem forM_streamTo_empty (header : ClassHeader) {methods : List Method}
    (distinct : (methods.map Method.signature).Nodup) (state : S) :
    methods.forM (·.streamTo sink) (.inClass header #[], state) =
      .ok () (.inClass header methods.toArray, state) := by
  simpa using forM_streamTo_of_nodup header #[] distinct state

theorem forM_streamTo_of_firstRepeated {header : ClassHeader} {methods before : List Method}
    {method : Method} (first : FirstRepeated methods before method) (state : S) :
    methods.forM (·.streamTo sink) (.inClass header #[], state) =
      .error (.malformed (.duplicateMethod method.signature))
        (.inClass header before.toArray, state) := by
  obtain ⟨⟨after, rfl⟩, distinct, taken⟩ := first
  rw [List.append_assoc, Action.forM_append,
    Action.bind_of_ok (forM_streamTo_empty header distinct state), List.singleton_append,
    Action.forM_cons, Action.bind_apply, streamTo_method_taken taken state]

/-! ## Classes in a builder -/

theorem streamTo_initial (file : ClassFile) (state : S) :
    file.streamTo sink (initial, state) =
      (file.methods.forM (·.streamTo sink) >>= fun _ => sink.send .classEnd)
        (.inClass file.header #[], state) := by
  have header : sink.send (.classHeader file.header) (initial, state) =
      .ok () (.inClass file.header #[], state) :=
    send_of_accepts (.classHeader file.header) state
  rw [ClassFile.streamTo, Action.bind_of_ok header]

theorem streamTo_of_nodup {file : ClassFile}
    (distinct : (file.methods.map Method.signature).Nodup) (state : S) :
    file.streamTo sink (initial, state) = .ok () (.finished file, state) := by
  have ended : sink.send .classEnd (.inClass file.header file.methods.toArray, state) =
      .ok () (.finished file, state) :=
    send_of_accepts (.classEnd file.header file.methods.toArray) state
  rw [streamTo_initial, Action.bind_of_ok (forM_streamTo_empty file.header distinct state), ended]

theorem streamTo_of_firstRepeated {file : ClassFile} {before : List Method} {method : Method}
    (first : FirstRepeated file.methods before method) (state : S) :
    file.streamTo sink (initial, state) =
      .error (.malformed (.duplicateMethod method.signature))
        (.inClass file.header before.toArray, state) := by
  rw [streamTo_initial, Action.bind_apply, forM_streamTo_of_firstRepeated first state]

/-- A class streams into a fresh builder without a failure exactly if no two of its methods share
name and descriptor, and the builder finishes with the same class then. Otherwise the stream fails
at the first method whose name and descriptor were declared before, the error names this method, and
the builder cannot finish. -/
theorem streamTo_initial_iff_nodup (file : ClassFile) (state : S) :
    let streamed := file.streamTo sink (initial, state)
    let distinct := (file.methods.map Method.signature).Nodup
    ((∃ last, streamed = .ok () last) ↔ distinct) ∧
    (distinct → ∃ builder, streamed = .ok () (builder, state) ∧ builder.finish = .ok file) ∧
    (¬ distinct → ∃ before method cause builder unfinished,
      FirstRepeated file.methods before method ∧
      streamed = .error (.malformed cause) (builder, state) ∧
      cause = .duplicateMethod method.signature ∧
      cause.message =
        "Duplicate method " ++ method.header.name ++ method.header.descriptor.text ∧
      builder.finish = .error (.malformed unfinished)) := by
  intro streamed distinct
  refine ⟨⟨?_, ?_⟩, ?_, ?_⟩
  · intro succeeds
    obtain ⟨last, ended⟩ := succeeds
    by_contra repeats
    obtain ⟨before, method, first⟩ := exists_firstRepeated repeats
    cases ended.symm.trans (streamTo_of_firstRepeated first state)
  · intro differ
    exact ⟨_, streamTo_of_nodup differ state⟩
  · intro differ
    exact ⟨.finished file, streamTo_of_nodup differ state, rfl⟩
  · intro repeats
    obtain ⟨before, method, first⟩ := exists_firstRepeated repeats
    exact ⟨before, method, .duplicateMethod method.signature,
      .inClass file.header before.toArray, .unfinishedClass, first,
      streamTo_of_firstRepeated first state, rfl,
      Malformation.message_duplicateMethod method.signature, rfl⟩

end ClassBuilder

end LambdaLowering
