import LambdaLowering.Proofs.LoweredClass

/-! No two methods of a lowered class share name and descriptor.

The methods that stay are tested against each other, and the accessors against them. The names of
accessors hold their numbers, so accessors never get in each other's way.
-/

set_option autoImplicit false

namespace LambdaLowering

variable {S : Type}

namespace Accessor

theorem nameFor_inj {first second : Nat} : nameFor first = nameFor second ↔ first = second := by
  constructor
  · intro same
    have texts : toString first = toString second := (String.append_right_inj nameStem).mp same
    rw [Nat.toString_eq_ofList_toDigits, Nat.toString_eq_ofList_toDigits,
      String.ofList_inj] at texts
    -- Digits can be read back.
    have readBack : ∀ number, Nat.ofDigitChars 10 (Nat.toDigits 10 number) 0 = number :=
      fun _ => Nat.ofDigitChars_toDigits (by decide) (by decide)
    rw [← readBack first, texts, readBack]
  · exact congrArg nameFor

theorem nodup_name_mapIdx {α : Type} {plan : Nat → α → Accessor}
    (named : ∀ number value, (plan number value).method.name = nameFor number) (values : List α) :
    ((values.mapIdx plan).map (·.method.name)).Nodup := by
  have names : (values.mapIdx plan).map (·.method.name) =
      (List.range values.length).map nameFor := by
    apply List.ext_getElem?
    intro number
    simp only [List.getElem?_map, List.getElem?_mapIdx]
    by_cases inside : number < values.length
    · simp [inside, named]
    · simp [inside]
  rw [names]
  exact List.nodup_range.map fun _ _ same => nameFor_inj.mp same

/-- The hook is no accessor, since its name starts otherwise. -/
theorem nameFor_ne_hook (number : Nat) : nameFor number ≠ DeserializationHook.name := by
  intro same
  have letters := congrArg String.toList same
  simp [nameFor, nameStem, DeserializationHook.name] at letters

end Accessor

theorem PendingAccessors.nodup_signature_plannedFor (host : HostClass) (targets : List MethodRef) :
    ((plannedFor host targets).entries.map (·.method.signature)).Nodup := by
  -- Already the names differ.
  apply List.Nodup.of_map MethodSignature.name
  rw [List.map_map]
  exact Accessor.nodup_name_mapIdx (fun _ _ => rfl) targets

/-! ## Free names -/

theorem demandAllFree_cons_eq_ok_iff {taken rest : List MethodSignature}
    {signature : MethodSignature} :
    demandAllFree taken (signature :: rest) = .ok () ↔
      signature ∉ taken ∧ demandAllFree (taken ++ [signature]) rest = .ok () := by
  rw [demandAllFree, demandFree]
  by_cases member : signature ∈ taken
  · simp [member, bind, Except.bind]
  · simp [member, bind, Except.bind]

theorem nodup_of_demandAllFree {taken signatures : List MethodSignature} (distinct : taken.Nodup)
    (free : demandAllFree taken signatures = .ok ()) : (taken ++ signatures).Nodup := by
  induction signatures generalizing taken with
  | nil => rwa [List.append_nil]
  | cons signature signatures ih =>
    obtain ⟨new, rest⟩ := demandAllFree_cons_eq_ok_iff.mp free
    rw [← List.singleton_append, ← List.append_assoc]
    apply ih _ rest
    rw [← List.concat_eq_append]
    exact List.Nodup.concat new distinct

theorem demandAllFree_of_lowerMethods {services : Services S} {metafactory : String}
    {host : HostClass} {taken : List MethodSignature} {methods lowered : List Method}
    {before after : PendingAccessors × S}
    (ran : lowerMethods services metafactory host taken methods before = .ok lowered after) :
    demandAllFree taken (lowered.map Method.signature) = .ok () := by
  induction methods generalizing taken lowered before with
  | nil =>
    cases ran
    rfl
  | cons method methods ih =>
    obtain ⟨pending, state⟩ := before
    unfold lowerMethods at ran
    cases hook : method.header.isDeserializationHook with
    | true =>
      rw [Action.bind_of_ok (services.keeps_hook hook pending state)] at ran
      exact ih ran
    | false =>
      rw [Action.bind_of_ok (services.keeps_ordinary hook pending state)] at ran
      simp only [↓reduceIte] at ran
      obtain ⟨_, _, free, afterFree⟩ := Action.bind_eq_ok.mp ran
      obtain ⟨code, _, _, afterBody⟩ := Action.bind_eq_ok.mp afterFree
      obtain ⟨rest, _, tail, done⟩ := Action.bind_eq_ok.mp afterBody
      cases done
      have free := (Action.ofExcept_eq_ok.mp free).1
      rw [List.map_cons, demandAllFree]
      change demandFree taken method.signature >>= _ = _
      rw [free]
      exact ih tail

theorem lowerClass_nodup_signature {config : Config} {services : Services S}
    {file out : ClassFile} {state last : S}
    (lowered : lowerClass config services file state = .ok out last) :
    (out.methods.map Method.signature).Nodup := by
  rw [lowerClass_eq_lowerDirectly] at lowered
  unfold lowerDirectly at lowered
  rw [Action.bind_of_ok (Action.modify_apply _ _)] at lowered
  obtain ⟨⟨methods, pending⟩, _, kept, afterMethods⟩ := Action.bind_eq_ok.mp lowered
  obtain ⟨_, _, free, afterFree⟩ := Action.bind_eq_ok.mp afterMethods
  cases afterFree
  have tested := demandAllFree_of_lowerMethods (Action.withOwn_eq_ok.mp kept)
  rw [List.map_append]
  exact nodup_of_demandAllFree (nodup_of_demandAllFree List.nodup_nil tested)
    (Action.ofExcept_eq_ok.mp free).1

/-! ## Headers that stay -/

theorem MethodsLowered.map_header {declared : Declarations} {metafactory : String}
    {host : HostClass} {pending last : PendingAccessors} {record : List Consultation}
    {methods lowered : List Method}
    (derived : MethodsLowered declared metafactory host pending methods lowered record last) :
    lowered.map Method.header =
      (methods.filter (!·.header.isDeserializationHook)).map Method.header := by
  induction derived with
  | nil => rfl
  | dropped hook rest ih => rw [ih, List.filter_cons_of_neg (by simp [hook])]
  | kept ordinary body rest ih =>
    rw [List.filter_cons_of_pos (by simp [ordinary]), List.map_cons, List.map_cons, ih]

end LambdaLowering
