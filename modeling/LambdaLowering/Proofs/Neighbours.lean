import LambdaLowering.Reachability

/-! What a neighbour of the host class may call.

A generated class is no part of its host, only a neighbour in the package. It needs an accessor for
just those methods that the host may call and a neighbour may not. The rule is stated through the
flags of the method and the two packages, and not through the cases in which it is decided.
-/

set_option autoImplicit false

namespace LambdaLowering

def AccessFlag.visibilities : List AccessFlag := [.isPublic, .isPrivate, .isProtected]

def AccessFlags.OneVisibility (access : AccessFlags) : Prop :=
  (AccessFlag.visibilities.filter access.has).length ≤ 1

instance (access : AccessFlags) : Decidable access.OneVisibility :=
  inferInstanceAs (Decidable (_ ≤ 1))

namespace HostClass

/-- An unrelated class in the host's package may call a method of the owner with these flags. -/
def NeighbourMayCall (host : HostClass) (owner : String) (access : AccessFlags) : Prop :=
  access.has .isPublic = true ∨
    ClassName.package owner = host.package ∧ access.has .isPrivate = false

instance (host : HostClass) (owner : String) (access : AccessFlags) :
    Decidable (host.NeighbourMayCall owner access) := inferInstanceAs (Decidable (_ ∨ _))

/-- The host may call a method of the owner with these flags: its own, what it inherits, and what
its neighbours may call. -/
def MayCall (host : HostClass) (owner : String) (access : AccessFlags) : Prop :=
  owner = host.name ∨ host.NeighbourMayCall owner access ∨ access.has .isProtected = true

end HostClass

theorem AccessFlags.OneVisibility.not_has_of_has {access : AccessFlags}
    (one : access.OneVisibility) {flag other : AccessFlag} (set : access.has flag = true)
    (visibility : flag ∈ AccessFlag.visibilities) (another : other ∈ AccessFlag.visibilities)
    (different : flag ≠ other) : access.has other = false := by
  cases both : access.has other with
  | false => rfl
  | true =>
    have here := List.mem_filter.mpr ⟨visibility, set⟩
    have there := List.mem_filter.mpr ⟨another, both⟩
    unfold OneVisibility at one
    generalize AccessFlag.visibilities.filter access.has = visibilities at one here there
    match visibilities with
    | [] => cases here
    | [only] =>
      exact absurd ((List.mem_singleton.mp here).trans (List.mem_singleton.mp there).symm) different
    | _ :: _ :: _ => simp at one

namespace HostClass

variable {host : HostClass} {declared : Declarations} {method : MethodRef} {owner : String}
variable {access : AccessFlags}

/-! ## Neighbours, package by package -/

theorem neighbourMayCall_iff_of_package_eq (one : access.OneVisibility)
    (same : ClassName.package owner = host.package) :
    host.NeighbourMayCall owner access ↔ access.has .isPrivate = false := by
  constructor
  · rintro (isPublic | ⟨_, visible⟩)
    · exact one.not_has_of_has isPublic (by decide) (by decide) (by decide)
    · exact visible
  · intro visible
    exact .inr ⟨same, visible⟩

theorem neighbourMayCall_iff_of_package_ne (apart : ClassName.package owner ≠ host.package) :
    host.NeighbourMayCall owner access ↔ access.has .isPublic = true := by
  constructor
  · rintro (isPublic | ⟨same, _⟩)
    · exact isPublic
    · exact absurd same apart
  · exact .inl

/-- Of a class in another package the host may call what is public or protected, a neighbour only
what is public. -/
theorem neighbourMayCall_iff_not_isProtected (one : access.OneVisibility)
    (foreign : owner ≠ host.name) (mayCall : host.MayCall owner access)
    (apart : ClassName.package owner ≠ host.package) :
    host.NeighbourMayCall owner access ↔ access.has .isProtected = false := by
  constructor
  · intro neighbour
    have isPublic := (neighbourMayCall_iff_of_package_ne apart).mp neighbour
    exact one.not_has_of_has isPublic (by decide) (by decide) (by decide)
  · intro unprotected
    rcases mayCall with own | neighbour | isProtected
    · exact absurd own foreign
    · exact neighbour
    · rw [unprotected] at isProtected
      cases isProtected

/-- In the package of the host its neighbours may call whatever it may call itself, unless that is
its own. -/
theorem neighbourMayCall_of_package_eq (one : access.OneVisibility) (foreign : owner ≠ host.name)
    (mayCall : host.MayCall owner access) (same : ClassName.package owner = host.package) :
    host.NeighbourMayCall owner access := by
  rcases mayCall with own | neighbour | isProtected
  · exact absurd own foreign
  · exact neighbour
  · exact .inr ⟨same, one.not_has_of_has isProtected (by decide) (by decide) (by decide)⟩

/-! ## The decision -/

theorem reaches_of_own (own : method.owner = host.name) :
    host.reaches declared method = host.reachesOwn declared method := by
  rw [reaches, if_pos (beq_iff_eq.mpr own)]

theorem reaches_of_foreign (foreign : method.owner ≠ host.name) :
    host.reaches declared method = .ok (host.reachesForeign declared method) := by
  rw [reaches, if_neg (mt beq_iff_eq.mp foreign)]

theorem reaches_of_found {found : DeclaredMethod} (ordinary : host.isInterface = false)
    (known : declared.find? method.owner method.signature = some found)
    (one : found.access.OneVisibility) (mayCall : host.MayCall method.owner found.access) :
    host.reaches declared method =
      .ok (decide (host.NeighbourMayCall method.owner found.access)) := by
  by_cases own : method.owner = host.name
  · have same : ClassName.package method.owner = host.package := congrArg ClassName.package own
    rw [reaches_of_own own, reachesOwn, ordinary, ← own, known]
    simp [neighbourMayCall_iff_of_package_eq one same]
  -- Within the package a neighbour may call what the host may; beyond it, what is not protected.
  · rw [reaches_of_foreign own, reachesForeign, known]
    by_cases same : ClassName.package method.owner = host.package
    · simp [same, neighbourMayCall_of_package_eq one own mayCall same]
    · simp [same, neighbourMayCall_iff_not_isProtected one own mayCall same]

theorem reaches_of_not_found (ordinary : host.isInterface = false)
    (unknown : declared.find? method.owner method.signature = none) :
    host.reaches declared method =
      if method.owner = host.name then .error (.notAnalyzed method) else .ok true := by
  by_cases own : method.owner = host.name
  · rw [reaches_of_own own, reachesOwn, ordinary, ← own, unknown]
    simp
  · rw [reaches_of_foreign own, reachesForeign, unknown]
    simp [own]

theorem reaches_of_interface (interface : host.isInterface = true) :
    host.reaches declared method =
      .ok (decide (method.owner = host.name) || host.reachesForeign declared method) := by
  by_cases own : method.owner = host.name
  · rw [reaches_of_own own, reachesOwn, interface]
    simp [own]
  · rw [reaches_of_foreign own]
    simp [own]

end HostClass

namespace TwoPackages

def host : HostClass := ⟨.none, "a/M"⟩

def declared : Declarations
  | "b/Base" => [⟨⟨"hook", ⟨[], .void⟩⟩, .ofFlags [.isProtected]⟩]
  | "a/Next" => [⟨⟨"hook", ⟨[], .void⟩⟩, .none⟩]
  | _ => []

def hookOf (owner : String) : MethodRef := ⟨.virtual, owner, "hook", ⟨[], .void⟩⟩

end TwoPackages

end LambdaLowering
