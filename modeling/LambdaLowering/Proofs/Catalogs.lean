import LambdaLowering.Catalog

/-! Catalogs of classes.

Classes are entered one by one, and nothing settles in which order. If their names differ, the order
does not show: what a catalog says of a class is what the class itself says of its methods.
-/

set_option autoImplicit false

namespace LambdaLowering

/-- What a catalog knows of a class: all its methods, the hook and duplicates among them. -/
def ClassFile.declaredMethods (file : ClassFile) : List DeclaredMethod :=
  file.methods.map fun method => ⟨method.signature, method.header.access⟩

namespace Catalog

theorem get?_insertClass (catalog : Catalog) (file : ClassFile) (owner : String) :
    (catalog.insertClass file).get? owner =
      if owner = file.name then some file.declaredMethods else catalog.get? owner :=
  catalog.get?_insert file.name owner file.declaredMethods

theorem get?_insertClass_foldl {files : List ClassFile} {owner : String}
    (absent : owner ∉ files.map ClassFile.name) (catalog : Catalog) :
    (files.foldl insertClass catalog).get? owner = catalog.get? owner := by
  induction files generalizing catalog with
  | nil => rfl
  | cons file files ih =>
    obtain ⟨other, absent⟩ := not_or.mp (mt List.mem_cons.mpr absent)
    rw [List.foldl_cons, ih absent, get?_insertClass, if_neg other]

section Listed

variable {files : List ClassFile} {file : ClassFile}
variable (distinct : (files.map ClassFile.name).Nodup) (member : file ∈ files)

include distinct member

theorem get?_ofClasses : (ofClasses files).get? file.name = some file.declaredMethods := by
  -- The class is entered on top of what came before it, and its name does not come again.
  obtain ⟨before, after, rfl⟩ := List.append_of_mem member
  rw [List.map_append, List.map_cons] at distinct
  have absent := (List.nodup_cons.mp (List.nodup_append.mp distinct).2.1).1
  rw [ofClasses, List.foldl_append, List.foldl_cons, get?_insertClass_foldl absent,
    get?_insertClass, if_pos rfl]

theorem contains_ofClasses : (ofClasses files).contains file.name = true := by
  rw [contains, get?_ofClasses distinct member, Option.isSome_some]

theorem load_ofClasses : (ofClasses files).load file.name = .ok ⟨file.name⟩ := by
  rw [load, if_pos (contains_ofClasses distinct member)]

theorem find?_ofClasses (signature : MethodSignature) :
    (ofClasses files).declarations.find? file.name signature =
      (file.find? signature).map fun method => ⟨method.signature, method.header.access⟩ := by
  rw [Declarations.find?, declarations, get?_ofClasses distinct member, Option.getD_some,
    ClassFile.declaredMethods, List.find?_map]
  rfl

end Listed

theorem get?_ofClasses_of_not_mem {files : List ClassFile} {owner : String}
    (absent : owner ∉ files.map ClassFile.name) : (ofClasses files).get? owner = none :=
  get?_insertClass_foldl absent empty

/-! ## The order of the classes -/

theorem get?_ofClasses_perm {files order : List ClassFile}
    (distinct : (files.map ClassFile.name).Nodup) (perm : order.Perm files) (owner : String) :
    (ofClasses order).get? owner = (ofClasses files).get? owner := by
  have names : (order.map ClassFile.name).Perm (files.map ClassFile.name) := perm.map _
  by_cases listed : owner ∈ files.map ClassFile.name
  · obtain ⟨file, member, rfl⟩ := List.mem_map.mp listed
    rw [get?_ofClasses (names.nodup_iff.mpr distinct) (perm.mem_iff.mpr member),
      get?_ofClasses distinct member]
  · rw [get?_ofClasses_of_not_mem listed, get?_ofClasses_of_not_mem (mt names.mem_iff.mp listed)]

theorem size_insert {catalog : Catalog} {owner : String} (methods : List DeclaredMethod)
    (unknown : catalog.get? owner = none) :
    (catalog.insert owner methods).size = catalog.size + 1 := by
  -- Nothing is forgotten when the owner is new.
  have others : catalog.entries.filter (·.1 != owner) = catalog.entries := by
    rw [List.filter_eq_self]
    intro entry member
    have other := List.lookup_eq_none_iff.mp unknown entry member
    exact bne_iff_ne.mpr (Ne.symm (bne_iff_ne.mp other))
  exact congrArg (List.length · + 1) others

theorem size_insertClass_foldl {files : List ClassFile} {catalog : Catalog}
    (distinct : (files.map ClassFile.name).Nodup)
    (unknown : ∀ name ∈ files.map ClassFile.name, catalog.get? name = none) :
    (files.foldl insertClass catalog).size = catalog.size + files.length := by
  induction files generalizing catalog with
  | nil => rfl
  | cons file files ih =>
    obtain ⟨new, distinct⟩ := List.nodup_cons.mp distinct
    have entered : (catalog.insertClass file).size = catalog.size + 1 :=
      size_insert _ (unknown file.name List.mem_cons_self)
    have unknown' : ∀ name ∈ files.map ClassFile.name,
        (catalog.insertClass file).get? name = none := by
      intro name later
      have other : name ≠ file.name := fun same => new (same ▸ later)
      rw [get?_insertClass, if_neg other]
      exact unknown name (List.mem_cons_of_mem _ later)
    rw [List.foldl_cons, ih distinct unknown', entered, List.length_cons, Nat.add_assoc,
      Nat.add_comm 1]

theorem size_ofClasses {files : List ClassFile} (distinct : (files.map ClassFile.name).Nodup) :
    (ofClasses files).size = files.length := by
  have filled := size_insertClass_foldl distinct fun name _ => get?_empty name
  rwa [show empty.size = 0 from rfl, Nat.zero_add] at filled

/-- Classes with different names can be entered in any order: no question to the catalog tells the
orders apart. Every class is known to it and can be loaded, and of its methods it finds just the one
that the class itself finds, which is the first. A name that is none of theirs is unknown to it and
cannot be loaded. -/
theorem ofClasses_perm {files order : List ClassFile}
    (distinct : (files.map ClassFile.name).Nodup) (perm : order.Perm files) :
    let catalog := ofClasses order
    (∀ owner, catalog.contains owner = (ofClasses files).contains owner) ∧
    (∀ owner, catalog.declarations owner = (ofClasses files).declarations owner) ∧
    (∀ owner signature, catalog.declarations.find? owner signature =
      (ofClasses files).declarations.find? owner signature) ∧
    (∀ name, catalog.load name = (ofClasses files).load name) ∧
    (catalog.size = (ofClasses files).size ∧ catalog.size = files.length) ∧
    (∀ file ∈ files, catalog.contains file.name = true ∧
      catalog.load file.name = .ok ⟨file.name⟩) ∧
    (∀ file ∈ files, ∀ signature, catalog.declarations.find? file.name signature =
      (file.find? signature).map fun method => ⟨method.signature, method.header.access⟩) ∧
    (∀ name ∉ files.map ClassFile.name,
      catalog.contains name = false ∧ catalog.declarations name = [] ∧
      (∀ signature, catalog.declarations.find? name signature = none) ∧
      catalog.load name = .error
        (.classLoad (ClassName.binary name) "class is not part of the indexed input")) := by
  intro catalog
  have distinct' : (order.map ClassFile.name).Nodup := (perm.map _).nodup_iff.mpr distinct
  have same : catalog.get? = (ofClasses files).get? := funext (get?_ofClasses_perm distinct perm)
  -- Every question is a question for the entry of one class, but for that of how many there are.
  have contains : catalog.contains = (ofClasses files).contains := by
    funext owner
    rw [Catalog.contains, same, Catalog.contains]
  have declarations : catalog.declarations = (ofClasses files).declarations := by
    funext owner
    rw [Catalog.declarations, same, Catalog.declarations]
  have load : catalog.load = (ofClasses files).load := by
    funext name
    rw [Catalog.load, contains, Catalog.load]
  have size : catalog.size = files.length := (size_ofClasses distinct').trans perm.length_eq
  refine ⟨congrFun contains, congrFun declarations, ?_, congrFun load,
    ⟨size.trans (size_ofClasses distinct).symm, size⟩, ?_, ?_, ?_⟩
  · intro owner signature
    rw [declarations]
  · intro file member
    have listed := perm.mem_iff.mpr member
    exact ⟨contains_ofClasses distinct' listed, load_ofClasses distinct' listed⟩
  · intro file member
    exact find?_ofClasses distinct' (perm.mem_iff.mpr member)
  · intro name absent
    have unknown : catalog.get? name = none := (congrFun same name).trans
      (get?_ofClasses_of_not_mem absent)
    have notContained : catalog.contains name = false := by
      rw [Catalog.contains, unknown, Option.isSome_none]
    have none : catalog.declarations name = [] := by
      rw [Catalog.declarations, unknown, Option.getD_none]
    refine ⟨notContained, none, ?_, ?_⟩
    · intro signature
      rw [Declarations.find?, none, List.find?_nil]
    · rw [Catalog.load, notContained]
      rfl

namespace Overloads

def twice : ClassFile where
  header := .plain 52 .none "a/M"
  methods := [
    ⟨.plain (.ofFlags [.isPrivate]) "get" ⟨[.primitive .int], .void⟩, []⟩,
    ⟨.plain (.ofFlags [.isStatic]) "get" ⟨[], .void⟩, []⟩,
    ⟨.plain (.ofFlags [.isPublic]) "get" ⟨[], .void⟩, []⟩]

def beside : ClassFile := ⟨.plain 52 .none "a/N", []⟩

end Overloads

/-- In either order the catalog finds the first of the two methods with this name and descriptor. -/
theorem ofClasses_perm_overloads :
    let files := [Overloads.twice, Overloads.beside]
    let order := [Overloads.beside, Overloads.twice]
    (files.map ClassFile.name).Nodup ∧ order.Perm files ∧
    (∀ catalog ∈ [ofClasses files, ofClasses order],
      catalog.declarations.find? "a/M" ⟨"get", ⟨[], .void⟩⟩ =
        some ⟨⟨"get", ⟨[], .void⟩⟩, .ofFlags [.isStatic]⟩) ∧
    (ofClasses order).contains "a/O" = false := by
  intro files order
  have distinct : (files.map ClassFile.name).Nodup := by decide
  have perm : order.Perm files := .swap _ _ _
  obtain ⟨_, _, same, _, _, _, found, unknown⟩ := ofClasses_perm distinct perm
  have first := found Overloads.twice List.mem_cons_self ⟨"get", ⟨[], .void⟩⟩
  refine ⟨distinct, perm, ?_, (unknown "a/O" (by decide)).1⟩
  simp only [List.mem_cons, List.not_mem_nil, or_false, forall_eq_or_imp, forall_eq]
  exact ⟨(same _ _).symm.trans first, first⟩

end Catalog

end LambdaLowering
