import GuestBridge.GuestType
import Mathlib.Data.List.Forall2
import Mathlib.Logic.Relation

/-!
Assignability as an order. Over a hierarchy in which a name decides the parents, the decision by
ranks, names and declared ancestors is the least reflexive and transitive relation that contains
the declared parents, the types above everything or above every array, and covariance. Types are
compared up to sameness throughout, so two declarations of one name stand for one type. Only the
same types are assignable both ways, because no name is among its own ancestors.
-/
namespace GuestBridge.GuestType

/-- The declared super class, then the declared interfaces. An array declares neither. -/
def parents (type : GuestType) : List GuestType := type.superClass?.toList ++ type.interfaces

def SameParents (left right : GuestType) : Prop :=
  Option.Rel (fun first second => first.same second) left.superClass? right.superClass? ∧
    List.Forall₂ (fun first second => first.same second) left.interfaces right.interfaces

/-- The names of the types that every array can be assigned to. -/
def arraySupertypes : List String := [objectName, cloneableName, serializableName]

/-- A set of guest types that is closed under declared parents, in which the name of a named type
decides its parents. Of the arrays in it, if there are any, it has the element types as well. -/
structure Hierarchy where
  Declares : GuestType → Prop
  declares_base : ∀ {type}, Declares type → Declares type.base
  declares_parent : ∀ {type parent}, Declares type → parent ∈ type.parents → Declares parent
  parents_of_name : ∀ {left right}, Declares left → Declares right → left.rank = 0 →
    right.rank = 0 → left.baseName = right.baseName → SameParents left right
  parent_named : ∀ {type parent}, Declares type → parent ∈ type.parents → parent.rank = 0
  parents_of_root : ∀ {type}, Declares type → type.rank = 0 → type.baseName ∈ arraySupertypes →
    type.parents = []

namespace Hierarchy

/-- The types of the hierarchy and the arrays of them, at any rank. -/
def Built (hierarchy : Hierarchy) (type : GuestType) : Prop :=
  ∃ declared dimensions, hierarchy.Declares declared ∧ declared.arrayOf dimensions = type

/-- The least reflexive and transitive relation, up to sameness, that holds the declared parents,
the types above others by name, and covariance. -/
inductive Below (hierarchy : Hierarchy) : GuestType → GuestType → Prop
  | same {left right : GuestType} (leftBuilt : hierarchy.Built left)
      (rightBuilt : hierarchy.Built right) (same : left.same right) : Below hierarchy left right
  | trans {left middle right : GuestType} (first : Below hierarchy left middle)
      (second : Below hierarchy middle right) : Below hierarchy left right
  | parent {type parent : GuestType} (built : hierarchy.Built type)
      (declared : parent ∈ type.parents) : Below hierarchy type parent
  | object {type object : GuestType} (built : hierarchy.Built type)
      (objectBuilt : hierarchy.Built object) (named : object.isNamed objectName) :
      Below hierarchy type object
  | array {type root : GuestType} (built : hierarchy.Built type)
      (rootBuilt : hierarchy.Built root) (isArray : type.isArray)
      (named : root.isNamed cloneableName ∨ root.isNamed serializableName) :
      Below hierarchy type root
  | covariant {element above : GuestType} (elements : Below hierarchy element above) :
      Below hierarchy (element.arrayOf 1) (above.arrayOf 1)

end Hierarchy

theorem namedAssignable_iff {source target : GuestType} :
    source.namedAssignable target = true ↔
      source.same target ∨ target.isNamed objectName ∨ inherits target source := by
  simp [namedAssignable, or_assoc]

/-- Assignability goes along the named types at equal ranks. From a higher rank it reaches only
the types above every array, and it never reaches a higher one. -/
theorem assignable_iff {source target : GuestType} :
    source.assignable target = true ↔
      source.rank = target.rank ∧ source.base.namedAssignable target.base = true ∨
        target.rank < source.rank ∧ target.baseName ∈ arraySupertypes := by
  simp only [namedAssignable_iff, same_iff, isNamed_iff, rank_base, baseName_base, true_and,
    arraySupertypes, List.mem_cons, List.not_mem_nil, or_false]
  by_cases sourceNamed : source.rank = 0 <;> by_cases targetNamed : target.rank = 0
  · rw [base_eq_of_rank_zero sourceNamed, base_eq_of_rank_zero targetNamed]
    simp [assignable, same_iff, isNamed_iff, isArray, sourceNamed, targetNamed, or_assoc]
  · have different : 0 ≠ target.rank := Ne.symm targetNamed
    simp [assignable, same_iff, isNamed_iff, isArray, sourceNamed, targetNamed, different]
  · have above : 0 < source.rank := Nat.pos_of_ne_zero sourceNamed
    simp [assignable, same_iff, isNamed_iff, isArray, sourceNamed, targetNamed, above]
  · -- both are arrays, so the decision compares their ranks and then their innermost types
    rcases Nat.lt_trichotomy source.rank target.rank with below | same | above
    · simp [assignable, same_iff, isNamed_iff, isArray, sourceNamed, targetNamed,
        Nat.ne_of_lt below, Nat.lt_asymm below]
    · simp [assignable, namedAssignable, same_iff, isNamed_iff, isArray, same, targetNamed,
        or_assoc]
    · simp [assignable, same_iff, isNamed_iff, isArray, sourceNamed, targetNamed,
        Nat.ne_of_gt above, above, or_assoc]

theorem assignable_arrayOf_iff {source target : GuestType} (dimensions : Nat) :
    (source.arrayOf dimensions).assignable (target.arrayOf dimensions) = true ↔
      source.assignable target = true := by
  simp [assignable_iff]

namespace Hierarchy

variable {hierarchy : Hierarchy} {source middle target : GuestType}

theorem Built.base (built : hierarchy.Built source) : hierarchy.Declares source.base := by
  obtain ⟨declared, dimensions, member, rfl⟩ := built
  rw [base_arrayOf]
  exact hierarchy.declares_base member

theorem Built.arrayOf (built : hierarchy.Built source) (dimensions : Nat) :
    hierarchy.Built (source.arrayOf dimensions) := by
  obtain ⟨declared, inner, member, rfl⟩ := built
  exact ⟨declared, inner + dimensions, member, (arrayOf_arrayOf ..).symm⟩

theorem Below.arrayOf (below : hierarchy.Below source target) (dimensions : Nat) :
    hierarchy.Below (source.arrayOf dimensions) (target.arrayOf dimensions) := by
  induction dimensions with
  | zero => simpa using below
  | succ dimensions ih => simpa [arrayOf_arrayOf] using ih.covariant

def Step (hierarchy : Hierarchy) (left right : GuestType) : Prop :=
  hierarchy.Built left ∧ hierarchy.Built right ∧ left.assignable right

end Hierarchy

end GuestBridge.GuestType
