import LambdaLowering.Proofs.DistinctMethods
import LambdaLowering.Proofs.Forwarding

/-! What the collaborators are asked while a class is lowered.

Every lambda call site that stays in the class is served once and in its turn. An accessor is named
in a request long before the class declares it; at the end each request has its own.
-/

set_option autoImplicit false

namespace LambdaLowering

variable {S : Type}

/-- A lambda call site, what was asked for it, and what was answered. -/
structure ServedSite where
  site : CallSite
  implementation : MethodRef
  callee : MethodRef
  invoker : LoadedClass
  factory : Factory

namespace ServedSite

/-- The questions for one site: its class is loaded, and then its lambda is generated. -/
def consultations (host : String) (served : ServedSite) : List Consultation :=
  [.load host (.ok served.invoker),
    .reify {
      implementation := served.implementation
      callee := served.callee
      invoker := served.invoker
      invokedName := served.site.name
      invokedType := served.site.descriptor
      bootstrap := served.site.bootstrap
      arguments := served.site.arguments } (.ok served.factory)]

def accessor (served : ServedSite) : Accessor := ⟨served.callee, served.implementation⟩

end ServedSite

theorem CallSite.implementation?_eq_some_iff {site : CallSite} {target : MethodRef} :
    site.implementation? = some target ↔ site.arguments[1]? = some (.handle target) := by
  unfold implementation? implementationPosition
  rcases site.arguments[1]? with _ | constant
  · simp
  · cases constant <;> simp [Constant.handle?]

theorem HostClass.needsAccessor_eq_true_iff {host : HostClass} {declared : Declarations}
    {target : MethodRef} :
    host.needsAccessor declared target = true ↔ host.reaches declared target = .ok false := by
  unfold needsAccessor
  rcases host.reaches declared target with error | reached
  · simp
  · cases reached <;> simp

/-! ## Serving in turn -/

section Serving

variable {declared : Declarations} {host : HostClass}

variable (declared host) in
/-- The sites are served in this order, with this record and these accessors planned on the way. -/
structure Serves (sites : List CallSite) (served : List ServedSite) (record : List Consultation)
    (planned : List Accessor) : Prop where
  sites : served.map ServedSite.site = sites
  record : record = served.flatMap (·.consultations host.name)
  named : ∀ one ∈ served, one.site.implementation? = some one.implementation
  called : ∀ one ∈ served, host.reaches declared one.implementation = .ok true ∧
      one.callee = one.implementation ∨ host.reaches declared one.implementation = .ok false
  planned : planned =
    (served.filter (host.needsAccessor declared ·.implementation)).map ServedSite.accessor

namespace Serves

variable {sites sites' : List CallSite} {served served' : List ServedSite}
variable {record record' : List Consultation} {planned planned' : List Accessor}

theorem nil : Serves declared host [] [] [] [] := ⟨rfl, rfl, by simp, by simp, rfl⟩

theorem append (first : Serves declared host sites served record planned)
    (second : Serves declared host sites' served' record' planned') :
    Serves declared host (sites ++ sites') (served ++ served') (record ++ record')
      (planned ++ planned') where
  sites := by rw [List.map_append, first.sites, second.sites]
  record := by rw [List.flatMap_append, ← first.record, ← second.record]
  named := List.forall_mem_append.mpr ⟨first.named, second.named⟩
  called := List.forall_mem_append.mpr ⟨first.called, second.called⟩
  planned := by rw [List.filter_append, List.map_append, ← first.planned, ← second.planned]

end Serves

variable {metafactory : String} {pending last : PendingAccessors} {record : List Consultation}

theorem SiteLowered.serves {site : CallSite} {factory : Factory}
    (derived : SiteLowered declared host site pending factory record last) :
    ∃ served planned, Serves declared host [site] served record planned ∧
      last.entries = pending.entries ++ planned := by
  cases derived with
  | @reached target invoker named reachable =>
    refine ⟨[⟨site, target, target, invoker, factory⟩], [], ⟨rfl, rfl, ?_, ?_, ?_⟩, ?_⟩
    · simpa using named
    · simp [reachable]
    · simp [HostClass.needsAccessor, reachable]
    · rw [List.append_nil]
  | @planned target invoker accessor named unreachable numbered =>
    refine ⟨[⟨site, target, accessor.method, invoker, factory⟩], [accessor],
      ⟨rfl, rfl, ?_, ?_, ?_⟩, rfl⟩
    · simpa using named
    · simp [unreachable]
    · simp [HostClass.needsAccessor, unreachable, ServedSite.accessor, numbered, Accessor.numbered]

theorem CodeLowered.serves {code lowered : List Instruction}
    (derived : CodeLowered declared metafactory host pending code lowered record last) :
    ∃ served planned,
      Serves declared host (code.filterMap (·.lambdaSite? metafactory)) served record planned ∧
      last.entries = pending.entries ++ planned := by
  induction derived with
  | nil => exact ⟨[], [], .nil, (List.append_nil _).symm⟩
  | plain plain rest ih => rwa [List.filterMap_cons_none plain]
  | site found derived rest ih =>
    obtain ⟨served, planned, here, grown⟩ := derived.serves
    obtain ⟨served', planned', later, grown'⟩ := ih
    refine ⟨served ++ served', planned ++ planned', ?_, ?_⟩
    · rw [List.filterMap_cons_some found, ← List.singleton_append]
      exact here.append later
    · rw [grown', grown, List.append_assoc]

theorem MethodsLowered.serves {methods lowered : List Method}
    (derived : MethodsLowered declared metafactory host pending methods lowered record last) :
    ∃ served planned,
      Serves declared host ((methods.filter (!·.header.isDeserializationHook)).flatMap
        (·.lambdaSites metafactory)) served record planned ∧
      last.entries = pending.entries ++ planned := by
  induction derived with
  | nil => exact ⟨[], [], .nil, (List.append_nil _).symm⟩
  | dropped hook rest ih => rwa [List.filter_cons_of_neg (by simp [hook])]
  | kept ordinary body rest ih =>
    obtain ⟨served, planned, here, grown⟩ := body.serves
    obtain ⟨served', planned', later, grown'⟩ := ih
    refine ⟨served ++ served', planned ++ planned', ?_, ?_⟩
    · rw [List.filter_cons_of_pos (by simp [ordinary]), List.flatMap_cons]
      exact here.append later
    · rw [grown', grown, List.append_assoc]

end Serving

/-! ## Accessors of a lowered class -/

theorem place_unique {α β : Type} {chosen : α → Bool} {key : α → β} {values : List α}
    (distinct : ((values.filter chosen).map key).Nodup) {first second : Nat} {one other : α}
    (here : values[first]? = some one) (there : values[second]? = some other)
    (chosenOne : chosen one = true) (chosenOther : chosen other = true)
    (same : key one = key other) : first = second := by
  rw [List.Nodup, List.pairwise_map, List.pairwise_filter, List.pairwise_iff_getElem] at distinct
  obtain ⟨inside, rfl⟩ := List.getElem?_eq_some_iff.mp here
  obtain ⟨inside', rfl⟩ := List.getElem?_eq_some_iff.mp there
  rcases Nat.lt_trichotomy first second with earlier | equal | later
  · exact absurd same (distinct _ _ inside inside' earlier chosenOne chosenOther)
  · exact equal
  · exact absurd same.symm (distinct _ _ inside' inside later chosenOther chosenOne)

section Planned

variable {declared : Declarations} {host : HostClass} {sites : List CallSite}
variable {served : List ServedSite} {record : List Consultation} {planned : List Accessor}

theorem Serves.mem_planned (serves : Serves declared host sites served record planned)
    {one : ServedSite} (member : one ∈ served)
    (unreachable : host.reaches declared one.implementation = .ok false) :
    one.accessor ∈ planned := by
  have needs := HostClass.needsAccessor_eq_true_iff.mpr unreachable
  rw [serves.planned]
  exact List.mem_map_of_mem (List.mem_filter.mpr ⟨member, needs⟩)

theorem Serves.existsUnique_turn (serves : Serves declared host sites served record planned)
    (distinct : (planned.map (·.declaration Accessor.hostAccess)).Nodup) {method : Method}
    (member : method ∈ planned.map (·.declaration Accessor.hostAccess)) :
    ∃! turn : Nat, ∃ one, served[turn]? = some one ∧
      host.reaches declared one.implementation = .ok false ∧
      one.accessor.declaration Accessor.hostAccess = method := by
  rw [serves.planned, List.map_map] at member distinct
  obtain ⟨one, chosen, same⟩ := List.mem_map.mp member
  obtain ⟨inside, needs⟩ := List.mem_filter.mp chosen
  obtain ⟨turn, found⟩ := List.mem_iff_getElem?.mp inside
  refine ⟨turn, ⟨one, found, HostClass.needsAccessor_eq_true_iff.mp needs, same⟩, ?_⟩
  intro other there
  obtain ⟨another, there, unreachable, equal⟩ := there
  exact place_unique distinct there found
    (HostClass.needsAccessor_eq_true_iff.mpr unreachable) needs (equal.trans same.symm)

end Planned

theorem PendingAccessors.mem_plannedFor {host : HostClass} {targets : List MethodRef}
    {accessor : Accessor} (member : accessor ∈ (plannedFor host targets).entries) :
    ∃ number target, accessor = .numbered number host target := by
  obtain ⟨number, inside, same⟩ := List.mem_mapIdx.mp member
  exact ⟨number, _, same.symm⟩

theorem ClassFile.mem_kept_or_name_eq {file : ClassFile} {method : Method}
    (member : method ∈ file.methods) :
    method ∈ file.kept ∨ method.header.name = DeserializationHook.name := by
  cases hook : method.header.isDeserializationHook with
  | false => exact .inl (List.mem_filter.mpr ⟨member, by simp [hook]⟩)
  | true =>
    simp only [MethodHeader.isDeserializationHook, Bool.and_eq_true, beq_iff_eq] at hook
    exact .inr hook.1.1

theorem MethodsLowered.map_signature {declared : Declarations} {metafactory : String}
    {host : HostClass} {pending last : PendingAccessors} {record : List Consultation}
    {methods lowered : List Method}
    (derived : MethodsLowered declared metafactory host pending methods lowered record last) :
    lowered.map Method.signature =
      (methods.filter (!·.header.isDeserializationHook)).map Method.signature := by
  have headers := congrArg (List.map MethodHeader.signature) derived.map_header
  rwa [List.map_map, List.map_map] at headers

theorem signature_not_mem_of_planned {file : ClassFile} {host : HostClass}
    {targets : List MethodRef} {accessor : Accessor}
    (planned : accessor ∈ (PendingAccessors.plannedFor host targets).entries)
    (free : accessor.method.signature ∉ file.kept.map Method.signature) :
    accessor.method.signature ∉ file.methods.map Method.signature := by
  intro member
  obtain ⟨method, inside, same⟩ := List.mem_map.mp member
  rcases ClassFile.mem_kept_or_name_eq inside with stays | hook
  · exact free (List.mem_map.mpr ⟨method, stays, same⟩)
  · obtain ⟨number, target, rfl⟩ := PendingAccessors.mem_plannedFor planned
    have names := congrArg MethodSignature.name same
    exact Accessor.nameFor_ne_hook number (names.symm.trans hook)

/-- In a class that is lowered, every lambda call site that stays is served once, in the order of
the sites and as it stands, and nothing else is asked for. A request names the implementation itself
where that can be reached. Elsewhere it names an accessor, which is a new method of the class, the
only one of that name and descriptor. Run with its arguments, it passes them on to the
implementation. It is written as `Accessor.declaration`, whoever the collaborators are. Every
accessor was named by just one request. -/
theorem lowerClass_requests {config : Config} {services : Services S} {file out : ClassFile}
    {state last : S} (lowered : lowerClass config services file state = .ok out last) :
    let host := HostClass.ofHeader file.header
    ∃ (record : List Consultation) (served : List ServedSite) (methods appended : List Method),
      lowerClass config services.recording file ([], state) = .ok out (record, last) ∧
      record = served.flatMap (·.consultations file.name) ∧
      served.map ServedSite.site = file.lambdaSites config.metafactory ∧
      (∀ one ∈ served, one.site.arguments[1]? = some (.handle one.implementation)) ∧
      out.methods = methods ++ appended ∧
      methods.map Method.header = file.kept.map Method.header ∧
      (∀ one ∈ served,
        host.reaches services.declared one.implementation = .ok true ∧
          one.callee = one.implementation ∨
        host.reaches services.declared one.implementation = .ok false ∧
          one.callee.kind = .static ∧ one.callee.owner = file.name ∧
          one.callee.signature ∉ file.methods.map Method.signature ∧
          one.accessor.declaration Accessor.hostAccess ∈ appended ∧
          (one.accessor.declaration Accessor.hostAccess).ForwardsTo host one.implementation ∧
          (out.methods.map Method.signature).count one.callee.signature = 1) ∧
      (∀ method ∈ appended, ∃! turn : Nat, ∃ one, served[turn]? = some one ∧
        host.reaches services.declared one.implementation = .ok false ∧
        one.accessor.declaration Accessor.hostAccess = method) := by
  intro host
  have agree := lowerClass_recording_agree config services file [] state
  rw [lowered] at agree
  obtain ⟨_, ⟨record, _⟩, recorded, rfl, rfl⟩ := agree.ok_of_right
  have direct := recorded
  rw [lowerClass_eq_lowerDirectly] at direct
  obtain ⟨methods, pending, derived, rfl⟩ := MethodsLowered.of_lowerDirectly direct
  obtain ⟨served, planned, serves, grown⟩ := derived.serves
  have none : PendingAccessors.empty = .plannedFor host [] := rfl
  have plans : pending = .plannedFor host (CallSite.needing host services.declared
      (file.lambdaSites config.metafactory)) := derived.pending_eq none
  have entries : pending.entries = planned := grown
  -- No two methods of the lowered class share a signature. This tells accessors apart from each
  -- other and from the methods that stay.
  have distinct := lowerClass_nodup_signature lowered
  have apart := distinct
  rw [List.map_append, derived.map_signature, List.nodup_append] at apart
  refine ⟨record, served, methods, _, recorded, serves.record, serves.sites, ?_, rfl,
    derived.map_header, ?_, ?_⟩
  · intro one member
    exact CallSite.implementation?_eq_some_iff.mp (serves.named one member)
  · intro one member
    rcases serves.called one member with reached | unreachable
    · exact .inl reached
    have pends : one.accessor ∈ pending.entries := entries ▸ serves.mem_planned member unreachable
    have appends : one.accessor.declaration Accessor.hostAccess ∈
        pending.entries.map (·.declaration Accessor.hostAccess) := List.mem_map_of_mem pends
    have planned := plans ▸ pends
    obtain ⟨number, target, numbered⟩ := PendingAccessors.mem_plannedFor planned
    have callee : one.callee = (Accessor.numbered number host target).method :=
      congrArg Accessor.method numbered
    refine .inr ⟨unreachable, by rw [callee]; rfl, by rw [callee]; rfl, ?_, appends,
      Accessor.numbered_forwardsTo numbered, ?_⟩
    · apply signature_not_mem_of_planned planned
      intro stays
      exact apart.2.2 _ stays _ (List.mem_map_of_mem appends) rfl
    · exact List.count_eq_one_of_mem distinct
        (List.mem_map_of_mem (List.mem_append_right methods appends))
  · intro method member
    have different := apart.2.1.of_map
    rw [entries] at member different
    exact serves.existsUnique_turn different member

/-! A class with lambdas that call private members of its own, one of them at two call sites. -/

namespace PrivateMembers

def siteOf (kind : ReferenceKind) (method : Method) : CallSite :=
  { PrivateBody.site with
    arguments := [.int 0, .handle ⟨kind, "a/M", method.header.name, method.header.descriptor⟩] }

def create : Method :=
  ⟨.plain (.ofFlags [.isPrivate]) "<init>" ⟨[.primitive .long, .object "a/Q"], .void⟩,
    [.simple .voidReturn]⟩

def scale : Method :=
  ⟨.plain (.ofFlags [.isPrivate]) "scale"
      ⟨[.primitive .double, .object "a/Q"], .value (.primitive .double)⟩,
    [.localVar .dload 1, .simple .dreturn]⟩

def sites : List CallSite :=
  [siteOf .constructor create, siteOf .special scale, siteOf .special scale]

/-- One more call site is in the hook. -/
def scaling : ClassFile where
  header := .plain 52 .none "a/M"
  methods := [create, scale,
    ⟨.plain .none "run" ⟨[], .void⟩, sites.map .dynamic ++ [.simple .voidReturn]⟩,
    { PrivateBody.hook with code := [.dynamic (siteOf .special scale)] }]

def scalingServices : Services Unit :=
  { PrivateBody.services with
    declared := fun _ =>
      [⟨create.signature, create.header.access⟩, ⟨scale.signature, scale.header.access⟩] }

def factoryCall : Instruction :=
  .invoke .invokestatic "a/M$0" "make" PrivateBody.site.descriptor false

/-- An accessor of the method, which takes the object first. -/
def scaleAccessor (name : String) : Method :=
  ⟨.plain (.ofFlags [.isStatic, .isSynthetic]) name
      ⟨[.object "a/M", .primitive .double, .object "a/Q"], .value (.primitive .double)⟩,
    [.localVar .aload 0, .localVar .dload 1, .localVar .aload 3,
      .invoke .invokespecial "a/M" "scale" scale.header.descriptor false, .simple .dreturn]⟩

def scalingLowered : ClassFile where
  header := scaling.header
  methods := [create, scale,
    ⟨.plain .none "run" ⟨[], .void⟩,
      [factoryCall, factoryCall, factoryCall, .simple .voidReturn]⟩,
    ⟨.plain (.ofFlags [.isStatic, .isSynthetic]) "access$lambda$0"
        ⟨[.primitive .long, .object "a/Q"], .value (.object "a/M")⟩,
      [.onType .newObject "a/M", .simple .dup, .localVar .lload 0, .localVar .aload 2,
        .invoke .invokespecial "a/M" "<init>" create.header.descriptor false, .simple .areturn]⟩,
    scaleAccessor "access$lambda$1", scaleAccessor "access$lambda$2"]

end PrivateMembers

/-- Each of the sites has a request and an accessor of its own, and the site in the hook has none.
-/
theorem lowerClass_requests_twice :
    lowerClass {} PrivateMembers.scalingServices PrivateMembers.scaling () =
      .ok PrivateMembers.scalingLowered () ∧
    ∃ (record : List Consultation) (served : List ServedSite),
      lowerClass {} PrivateMembers.scalingServices.recording PrivateMembers.scaling ([], ()) =
        .ok PrivateMembers.scalingLowered (record, ()) ∧
      record = served.flatMap (ServedSite.consultations "a/M") ∧
      served.map ServedSite.site = PrivateMembers.sites ∧
      ∀ one ∈ served, one.callee.kind = .static ∧
        (one.accessor.declaration Accessor.hostAccess).ForwardsTo ⟨.none, "a/M"⟩
          one.implementation := by
  have lowered : lowerClass {} PrivateMembers.scalingServices PrivateMembers.scaling () =
      .ok PrivateMembers.scalingLowered () := by
    rw [lowerClass_eq_lowerDirectly]
    rfl
  obtain ⟨record, served, _, _, recorded, asked, sites, named, _, _, called, _⟩ :=
    lowerClass_requests lowered
  have sites : served.map ServedSite.site = PrivateMembers.sites := sites
  refine ⟨lowered, record, served, recorded, asked, sites, ?_⟩
  intro one member
  rcases called one member with ⟨reached, -⟩ | ⟨-, static, -, -, -, forwards, -⟩
  · -- Neither member can be reached from another class.
    have site : one.site ∈ PrivateMembers.sites := sites ▸ List.mem_map_of_mem member
    have implementation := named one member
    simp only [PrivateMembers.sites, List.mem_cons, List.not_mem_nil, or_false] at site
    rcases site with site | site | site <;>
    · rw [site] at implementation
      rw [← Constant.handle.inj (Option.some.inj implementation)] at reached
      cases reached
  · exact ⟨static, forwards⟩

end LambdaLowering
