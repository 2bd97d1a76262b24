import GuestBridge.Heap

/-!
Cells by their places. What a place can hold is fixed by the class it belongs to, and putting a
cell into its place changes no other place and nothing else about the heap. Loading, storing and
exchanging are stated for places that have a cell.
-/
namespace GuestBridge

namespace Cells

variable {kinds : List FieldKind} {slot : Nat} {cell : Cell}

theorem map_kind_get? (cells : Cells kinds) (slot : Nat) :
    (cells.get? slot).map Cell.kind = kinds[slot]? := by
  rw [get?, ← List.getElem?_map, cells.kinds_eq]

theorem get?_set_same (cells : Cells kinds) (sameKind : kinds[slot]? = some cell.kind) :
    (cells.set slot cell).get? slot = some cell := by
  have bound : slot < cells.toList.length := by
    have inside := (List.getElem?_eq_some_iff.1 sameKind).1
    rwa [← cells.kinds_eq, List.length_map] at inside
  rw [set, dif_pos sameKind, get?]
  exact List.getElem?_set_self bound

theorem get?_set_ne (cells : Cells kinds) {other : Nat} (different : other ≠ slot) :
    (cells.set slot cell).get? other = cells.get? other := by
  unfold set
  split
  · exact List.getElem?_set_ne (Ne.symm different)
  · rfl

end Cells

def HostObject.cell? (object : HostObject) (slot : Nat) : Option Cell := object.cells.get? slot

namespace Heap

/-- The cell in a slot of a class, zero where the class was never written. -/
def staticCell? (owner : ClassLayout) (slot : Nat) (statics : List StaticCells) : Option Cell :=
  match statics.find? (·.owner == owner) with
  | some area => area.cells.get? slot
  | none => (Cells.zero owner.staticKinds).get? slot

theorem staticCell?_cons (owner : ClassLayout) (slot : Nat) (area : StaticCells)
    (rest : List StaticCells) :
    staticCell? owner slot (area :: rest) =
      if area.owner = owner then area.cells.get? slot else staticCell? owner slot rest := by
  by_cases same : area.owner = owner <;> simp [staticCell?, same]

theorem map_kind_staticCell? (owner : ClassLayout) (slot : Nat) (statics : List StaticCells) :
    (staticCell? owner slot statics).map Cell.kind = owner.staticKinds[slot]? := by
  induction statics with
  | nil => exact Cells.map_kind_get? _ slot
  | cons area rest ih =>
    rw [staticCell?_cons]
    split
    case isTrue same =>
      subst same
      exact Cells.map_kind_get? _ slot
    case isFalse => exact ih

theorem staticCell?_setStatic_same {owner : ClassLayout} {slot : Nat} {cell : Cell}
    (sameKind : owner.staticKinds[slot]? = some cell.kind) (statics : List StaticCells) :
    staticCell? owner slot (setStatic owner slot cell statics) = some cell := by
  induction statics with
  | nil =>
    rw [setStatic, staticCell?_cons, if_pos rfl]
    exact Cells.get?_set_same _ sameKind
  | cons area rest ih =>
    rw [setStatic]
    split
    case isTrue same =>
      rw [staticCell?_cons, if_pos same]
      subst same
      exact Cells.get?_set_same _ sameKind
    case isFalse different => rw [staticCell?_cons, if_neg different, ih]

theorem staticCell?_setStatic_ne {owner otherOwner : ClassLayout} {slot otherSlot : Nat}
    {cell : Cell} (different : ¬ (otherOwner = owner ∧ otherSlot = slot))
    (statics : List StaticCells) :
    staticCell? otherOwner otherSlot (setStatic owner slot cell statics) =
      staticCell? otherOwner otherSlot statics := by
  induction statics with
  | nil =>
    rw [setStatic, staticCell?_cons]
    split
    case isTrue same =>
      have same : owner = otherOwner := same
      subst same
      exact Cells.get?_set_ne _ fun sameSlot => different ⟨rfl, sameSlot⟩
    case isFalse => rfl
  | cons area rest ih =>
    rw [setStatic]
    split
    case isTrue atOwner =>
      rw [staticCell?_cons, staticCell?_cons]
      split
      case isTrue same =>
        have sameOwner : otherOwner = owner := same.symm.trans atOwner
        exact Cells.get?_set_ne _ fun sameSlot => different ⟨sameOwner, sameSlot⟩
      case isFalse => rfl
    case isFalse => rw [staticCell?_cons, staticCell?_cons, ih]

theorem cell?_field (heap : Heap) (object : ObjectId) (slot : Nat) :
    heap.cell? (.field object slot) = (heap.object object).cell? slot := rfl

/-- The kind that the class of a place laid out for it. -/
def kindAt? (heap : Heap) : Place → Option FieldKind
  | .static owner slot => owner.staticKinds[slot]?
  | .field object slot => (heap.object object).origin.instanceKinds[slot]?

theorem map_kind_cell? (heap : Heap) (place : Place) :
    (heap.cell? place).map Cell.kind = heap.kindAt? place := by
  cases place with
  | static owner slot => exact map_kind_staticCell? owner slot heap.statics
  | field object slot => exact Cells.map_kind_get? _ slot

theorem exists_cell {heap : Heap} {place : Place} {kind : FieldKind}
    (laidOut : heap.kindAt? place = some kind) :
    ∃ cell, heap.cell? place = some cell ∧ cell.kind = kind := by
  rw [← map_kind_cell?] at laidOut
  exact Option.map_eq_some_iff.1 laidOut

theorem cell_eq {heap : Heap} {place : Place} {cell : Cell}
    (present : heap.cell? place = some cell) : heap.cell place = .ok cell := by
  simp [Heap.cell, present]

theorem object_modifyObject (heap : Heap) (object other : ObjectId)
    (change : HostObject → HostObject) :
    (heap.modifyObject object change).object other =
      if object = other ∧ object.index < heap.objects.size then change (heap.object other)
      else heap.object other := by
  by_cases same : object = other
  · subst same
    by_cases inside : object.index < heap.objects.size <;>
      simp [Heap.object, modifyObject, Array.getElem_modify, inside]
  · have different : object.index ≠ other.index := fun equal => same (by
      cases object; cases other; exact congrArg ObjectId.mk equal)
    simp [Heap.object, modifyObject, Array.getElem?_modify, same, different]

/-- An identity that was never given out has no cells. -/
theorem index_lt_of_kindAt? {heap : Heap} {object : ObjectId} {slot : Nat} {kind : FieldKind}
    (laidOut : heap.kindAt? (.field object slot) = some kind) :
    object.index < heap.objects.size := by
  refine Nat.lt_of_not_le fun outside => ?_
  have unknown : heap.object object = .unknown := by
    simp [Heap.object, Array.getElem?_eq_none outside]
  simp [kindAt?, unknown, HostObject.unknown, HostObject.ofLayout, ClassLayout.instanceKinds]
    at laidOut

theorem cell?_setCell_same {heap : Heap} {place : Place} {cell : Cell}
    (sameKind : heap.kindAt? place = some cell.kind) :
    (heap.setCell cell place).cell? place = some cell := by
  cases place with
  | static owner slot => exact staticCell?_setStatic_same sameKind heap.statics
  | field object slot =>
    have inside := index_lt_of_kindAt? sameKind
    simp only [setCell, cell?_field, object_modifyObject, inside, and_self, if_true]
    exact Cells.get?_set_same _ sameKind

/-- The later heap differs in the cell at one place at most. -/
structure DiffersAt (place : Place) (before after : Heap) : Prop where
  cell?_eq : ∀ other, other ≠ place → after.cell? other = before.cell? other
  size_eq : after.objects.size = before.objects.size
  origin_eq : ∀ object, (after.object object).origin = (before.object object).origin
  payload?_eq : ∀ object, after.payload? object = before.payload? object
  isHeld_eq : ∀ object, after.isHeld object = before.isHeld object
  constants_eq : after.constants = before.constants
  nextIdentity_eq : after.nextIdentity = before.nextIdentity

theorem differsAt_setStatic (heap : Heap) (owner : ClassLayout) (slot : Nat) (cell : Cell) :
    DiffersAt (.static owner slot) heap (heap.setCell cell (.static owner slot)) where
  cell?_eq other different := by
    cases other with
    | static otherOwner otherSlot =>
      refine staticCell?_setStatic_ne (fun same => different ?_) heap.statics
      rw [same.1, same.2]
    | field object slot => rfl
  size_eq := rfl
  origin_eq _ := rfl
  payload?_eq _ := rfl
  isHeld_eq _ := rfl
  constants_eq := rfl
  nextIdentity_eq := rfl

theorem differsAt_setField (heap : Heap) (object : ObjectId) (slot : Nat) (cell : Cell) :
    DiffersAt (.field object slot) heap (heap.setCell cell (.field object slot)) where
  cell?_eq other different := by
    cases other with
    | static owner otherSlot => rfl
    | field otherObject otherSlot =>
      simp only [setCell, cell?_field, object_modifyObject]
      split
      case isTrue same =>
        refine Cells.get?_set_ne _ fun sameSlot => different ?_
        rw [same.1, sameSlot]
      case isFalse => rfl
  size_eq := Array.size_modify ..
  origin_eq other := by
    simp only [setCell, object_modifyObject]
    split <;> rfl
  payload?_eq other := by
    simp only [setCell, payload?, object_modifyObject]
    split <;> rfl
  isHeld_eq other := by
    by_cases same : object.index = other.index
    · cases record : heap.objects[other.index]? <;>
        simp [setCell, isHeld, modifyObject, Array.getElem?_modify, same, record]
    · simp [setCell, isHeld, modifyObject, Array.getElem?_modify, same]
  constants_eq := rfl
  nextIdentity_eq := rfl

theorem differsAt_setCell (heap : Heap) (place : Place) (cell : Cell) :
    DiffersAt place heap (heap.setCell cell place) := by
  cases place with
  | static owner slot => exact differsAt_setStatic heap owner slot cell
  | field object slot => exact differsAt_setField heap object slot cell

section Operations

variable {heap : Heap} {place : Place} {cell : Cell}

theorem run_load (present : heap.cell? place = some cell) :
    (load place).run heap = (.ok cell.content, heap) := by
  simp only [load, Action.run_bind, Action.run_get, cell_eq present, Action.run_liftM,
    Action.run_pure]

theorem run_store (present : heap.cell? place = some cell) (value : Value) :
    (store place value).run heap =
      if fits : value.fits cell.kind = true then
        (.ok (), heap.setCell ⟨cell.kind, value, fits⟩ place)
      else (.error (cell.mismatch value), heap) := by
  by_cases fits : value.fits cell.kind = true <;>
    simp [store, Action.run_bind, cell_eq present, Cell.store, fits]

theorem run_exchange (present : heap.cell? place = some cell) (expected update : Value) :
    (exchange place expected update).run heap =
      match cell.exchange expected update with
      | .error fault => (.error fault, heap)
      | .ok (swapped, updated) =>
        (.ok swapped, if swapped then heap.setCell updated place else heap) := by
  simp only [exchange, Action.run_bind, Action.run_get, cell_eq present, Action.run_liftM]
  rcases cell.exchange expected update with fault | ⟨swapped, updated⟩
  · rfl
  · cases swapped <;> rfl

end Operations

end Heap

end GuestBridge
