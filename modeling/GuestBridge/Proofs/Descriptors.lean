import GuestBridge.Proofs.Assignability
import GuestBridge.Proofs.TextCuts

/-!
Arrays of guest types and their descriptors. An array of arrays is one array of the innermost type,
in its element type, in its name and for assignability. A descriptor tells its type apart from all
others, whatever letters stand in the name.
-/
namespace GuestBridge

namespace GuestType

theorem isArray_eq_false_iff {type : GuestType} : type.isArray = false ↔ type.rank = 0 := by
  simp [isArray]

theorem elementType?_of_isArray {type : GuestType} (array : type.isArray = true) :
    type.elementType? = some type.base := by
  rw [elementType?, if_pos array]

/-- The innermost type is the element type of an array, and any other type itself. -/
theorem base_eq_getD (type : GuestType) : type.base = type.elementType?.getD type := by
  cases array : type.isArray with
  | true => rw [elementType?_of_isArray array, Option.getD_some]
  | false =>
    have named := isArray_eq_false_iff.1 array
    rw [base_eq_of_rank_zero named, elementType?, if_neg (by simp [array]), Option.getD_none]

theorem name_base (type : GuestType) : type.base.name = type.baseName := by
  have named : type.base.isArray = false := isArray_eq_false_iff.2 (rank_base type)
  rw [name, if_neg (by simp [named]), baseName_base]

/-- An array of arrays is one array of the innermost type, and dimensions around two types leave
their assignability as it is. -/
theorem arrays_flatten (type target : GuestType) (inner outer dimensions : Nat) :
    let array := (type.arrayOf inner).arrayOf outer
    array = type.arrayOf (inner + outer) ∧ array.same (type.arrayOf (inner + outer)) = true ∧
    array.rank = type.rank + inner + outer ∧
    (0 < array.rank → ∃ element, array.elementType? = some element ∧ element.isArray = false ∧
      element = type.elementType?.getD type ∧
      array.name = String.ofList (List.replicate array.rank '[') ++ "L" ++ element.name ++ ";") ∧
    ((type.arrayOf dimensions).assignable (target.arrayOf dimensions) = true ↔
      type.assignable target = true) := by
  intro array
  have flat : array = type.arrayOf (inner + outer) := arrayOf_arrayOf inner outer type
  refine ⟨flat, same_iff.2 ?_, by simp [array], fun deep => ?_, assignable_arrayOf_iff dimensions⟩
  · rw [flat]
    exact ⟨rfl, rfl⟩
  · have isArray : array.isArray = true := by
      rw [GuestType.isArray]
      simpa using Nat.ne_of_gt deep
    have sameBase : array.base = type.base := by simp [array]
    refine ⟨array.base, elementType?_of_isArray isArray, ?_, ?_, ?_⟩
    · exact isArray_eq_false_iff.2 (rank_base array)
    · rw [sameBase, base_eq_getD]
    · rw [name, if_pos isArray, descriptor, name_base]

theorem arrays_flatten_of_row :
    let row := (ofGhost "demo.Shape" []).arrayOf 1
    0 < (row.arrayOf 2).rank ∧ (row.arrayOf 2).name = "[[[Ldemo.Shape;" ∧
      (row.arrayOf 3).assignable ((ofClass objectName none []).arrayOf 3) = true := by
  intro row
  have deep : 0 < ((row.arrayOf 0).arrayOf 2).rank := by decide
  obtain ⟨-, -, -, parts, lifted⟩ := arrays_flatten row (ofClass objectName none []) 0 2 3
  obtain ⟨element, -, -, rfl, name⟩ := parts deep
  exact ⟨deep, name.trans (by decide), lifted.2 (by decide)⟩

theorem toList_descriptor (type : GuestType) :
    type.descriptor.toList =
      List.replicate type.rank '[' ++ 'L' :: (type.baseName.toList ++ [';']) := by
  simp [descriptor]

/-- The descriptor tells types apart: its leading brackets are the rank, since an `L` follows them,
and the rest is the name, whatever stands in it. -/
theorem descriptor_eq_iff (left right : GuestType) :
    left.descriptor = right.descriptor ↔ left.same right = true := by
  rw [same_iff]
  constructor
  · intro alike
    have texts := congrArg String.toList alike
    rw [toList_descriptor, toList_descriptor] at texts
    obtain ⟨sameRank, rest⟩ := eq_of_bracketed (by simp) (by simp) texts
    have names := List.append_cancel_right (List.cons.inj rest).2
    exact ⟨sameRank, String.toList_inj.1 names⟩
  · rintro ⟨sameRank, sameName⟩
    rw [descriptor, descriptor, sameRank, sameName]

end GuestType

end GuestBridge
