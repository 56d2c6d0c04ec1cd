import LambdaLowering.ClassName
import LambdaLowering.Error

/-! Which methods the classes of the input declare. -/

set_option autoImplicit false

namespace LambdaLowering

structure DeclaredMethod where
  signature : MethodSignature
  access : AccessFlags
  deriving DecidableEq, Repr

/-- The declared methods of every class; a class that is not known declares none. -/
abbrev Declarations := String → List DeclaredMethod

def Declarations.find? (declared : Declarations) (owner : String) (signature : MethodSignature) :
    Option DeclaredMethod :=
  (declared owner).find? (·.signature == signature)

structure LoadedClass where
  internalName : String
  deriving DecidableEq, Repr

def LoadedClass.binaryName (loaded : LoadedClass) : String := ClassName.binary loaded.internalName

structure Catalog where
  entries : List (String × List DeclaredMethod)
  distinct : (entries.map Prod.fst).Nodup

namespace Catalog

def empty : Catalog := ⟨[], List.nodup_nil⟩

def size (catalog : Catalog) : Nat := catalog.entries.length

def isEmpty (catalog : Catalog) : Bool := catalog.entries.isEmpty

def get? (catalog : Catalog) (owner : String) : Option (List DeclaredMethod) :=
  catalog.entries.lookup owner

def contains (catalog : Catalog) (owner : String) : Bool := (catalog.get? owner).isSome

def declarations (catalog : Catalog) : Declarations := fun owner => (catalog.get? owner).getD []

def insert (catalog : Catalog) (owner : String) (methods : List DeclaredMethod) : Catalog where
  entries := (owner, methods) :: catalog.entries.filter (·.1 != owner)
  distinct := by
    simp only [List.map_cons, List.nodup_cons, List.mem_map, List.mem_filter]
    constructor
    · rintro ⟨entry, ⟨_, other⟩, same⟩
      simp [same] at other
    · exact catalog.distinct.sublist (List.filter_sublist.map Prod.fst)

@[simp] theorem get?_empty (owner : String) : empty.get? owner = none := rfl

theorem lookup_filter_ne {entries : List (String × List DeclaredMethod)} {owner other : String}
    (different : other ≠ owner) :
    (entries.filter (·.1 != owner)).lookup other = entries.lookup other := by
  induction entries with
  | nil => rfl
  | cons entry rest ih =>
    obtain ⟨name, methods⟩ := entry
    by_cases same : name = owner
    · subst same
      simp [List.lookup_cons, ih, beq_eq_false_iff_ne.mpr different]
    · simp [List.lookup_cons, ih, same]

theorem get?_insert (catalog : Catalog) (owner other : String) (methods : List DeclaredMethod) :
    (catalog.insert owner methods).get? other =
      if other = owner then some methods else catalog.get? other := by
  by_cases same : other = owner
  · simp [get?, insert, same]
  · simp [get?, insert, List.lookup_cons, same, beq_eq_false_iff_ne.mpr same, lookup_filter_ne same]

def insertClass (catalog : Catalog) (file : ClassFile) : Catalog :=
  catalog.insert file.name
    (file.methods.map fun method => ⟨method.signature, method.header.access⟩)

/-- The catalog of a list of classes; of two classes with one name the later counts. -/
def ofClasses (files : List ClassFile) : Catalog := files.foldl insertClass empty

def load (catalog : Catalog) (name : String) : Except Error LoadedClass :=
  if catalog.contains name then .ok ⟨name⟩
  else .error (.classLoad (ClassName.binary name) "class is not part of the indexed input")

end Catalog

end LambdaLowering
