import GuestBridge.Proofs.BaseClasses
import GuestBridge.Proofs.FieldStorage
import GuestBridge.Proofs.FirstMatches

/-!
Objects of the base classes on the heap: what constructing one leaves, what reading and setting a
member that holds an object does, and what a property table answers. Each operation is about one
object at most, and all others stay what they were.
-/
namespace GuestBridge

namespace Heap

/-- Only the one object, if any, may be another than before. There may be new ones. -/
structure ChangesAt (touched : Option ObjectId) (before after : Heap) : Prop where
  size_le : before.objects.size ≤ after.objects.size
  object_eq : ∀ other : ObjectId, other.index < before.objects.size → touched ≠ some other →
    after.object other = before.object other

variable {touched : Option ObjectId} {heap : Heap}

theorem ChangesAt.refl (touched : Option ObjectId) (heap : Heap) : heap.ChangesAt touched heap :=
  ⟨Nat.le_refl _, fun _ _ _ => rfl⟩

theorem ChangesAt.trans {first second third : Heap} (early : first.ChangesAt touched second)
    (late : second.ChangesAt touched third) : first.ChangesAt touched third where
  size_le := Nat.le_trans early.size_le late.size_le
  object_eq other known apart :=
    (late.object_eq other (Nat.lt_of_lt_of_le known early.size_le) apart).trans
      (early.object_eq other known apart)

theorem ChangesAt.weaken {before after : Heap} (changes : before.ChangesAt none after)
    (touched : Option ObjectId) : before.ChangesAt touched after :=
  ⟨changes.size_le, fun other known _ =>
    changes.object_eq other known (Option.some_ne_none other).symm⟩

theorem changesAt_allocate (heap : Heap) (record : HostObject) :
    heap.ChangesAt none (heap.allocate record).2 where
  size_le := by simp [allocate]
  object_eq other known _ := by
    simp [allocate, Heap.object, Array.getElem?_push, Nat.ne_of_lt known]

theorem object_allocate (heap : Heap) (record : HostObject) :
    (heap.allocate record).2.object ⟨heap.objects.size⟩ = record := by
  simp [allocate, Heap.object]

theorem changesAt_modifyObject (heap : Heap) (object : ObjectId)
    (change : HostObject → HostObject) :
    heap.ChangesAt (some object) (heap.modifyObject object change) where
  size_le := by simp [modifyObject]
  object_eq other _ apart := by
    rw [object_modifyObject, if_neg]
    exact fun same => apart (congrArg some same.1)

theorem index_lt_of_payload? {object : ObjectId} {payload : Payload}
    (carried : heap.payload? object = some payload) : object.index < heap.objects.size := by
  refine Nat.lt_of_not_le fun outside => ?_
  have unknown : heap.object object = .unknown := by
    simp [Heap.object, Array.getElem?_eq_none outside]
  rw [payload?, unknown] at carried
  cases carried

theorem run_instantiate (origin : ClassLayout) (payload : Option Payload) (heap : Heap) :
    (instantiate origin payload : Action Heap Fault ObjectId).run heap =
      (.ok ⟨heap.objects.size⟩, (heap.allocate (.ofLayout origin payload)).2) := rfl

end Heap

namespace HostObject

/-- What the cell in a slot holds. -/
def content? (record : HostObject) (slot : Nat) : Option Value :=
  (record.cell? slot).map Cell.content

theorem content?_ofLayout {origin : ClassLayout} {slot : Nat} {kind : FieldKind}
    (laidOut : origin.instanceKinds[slot]? = some kind) (payload : Option Payload) :
    (ofLayout origin payload).content? slot = some kind.zero := by
  simp [content?, cell?, ofLayout, Cells.zero, Cells.get?, laidOut, Cell.zero]

end HostObject

theorem Value.fits_ofObject? (target : Option ObjectId) :
    (Value.ofObject? target).fits .reference = true := by
  cases target <;> rfl

theorem Value.toObject_ofObject? (target : Option ObjectId) :
    (Value.ofObject? target).toObject = .ok target := by
  cases target <;> rfl

namespace Heap

variable {heap : Heap} {object : ObjectId} {slot : Nat} {value : Value}

/-- The slot of the object holds the value now, and nothing else is another than before. -/
structure Puts (object : ObjectId) (slot : Nat) (value : Value) (before after : Heap) : Prop where
  changes : before.ChangesAt (some object) after
  origin_eq : (after.object object).origin = (before.object object).origin
  payload_eq : (after.object object).payload = (before.object object).payload
  content?_eq : (after.object object).content? slot = some value
  content?_of_ne : ∀ other, other ≠ slot →
    (after.object object).content? other = (before.object object).content? other

theorem puts_setCell (laidOut : heap.kindAt? (.field object slot) = some .reference)
    (fits : value.fits .reference = true) :
    heap.Puts object slot value (heap.setCell ⟨.reference, value, fits⟩ (.field object slot)) := by
  let cell : Cell := ⟨.reference, value, fits⟩
  have differs := differsAt_setCell heap (.field object slot) cell
  have written : (heap.setCell cell (.field object slot)).cell? (.field object slot) = some cell :=
    cell?_setCell_same laidOut
  refine ⟨changesAt_modifyObject heap object _, differs.origin_eq object,
    differs.payload?_eq object, congrArg (Option.map Cell.content) written, fun other apart => ?_⟩
  have unwritten := differs.cell?_eq (.field object other) fun same => apart (by cases same; rfl)
  exact congrArg (Option.map Cell.content) unwritten

end Heap

namespace BaseClass

theorem run_storingConstructor (signature : String) {origin : ClassLayout} {value : Value}
    (laidOut : origin.instanceKinds[0]? = some .reference) (fits : value.fits .reference = true)
    (heap : Heap) :
    ∃ after, ((storingConstructor signature).body origin [value]).run heap =
        (.ok ⟨heap.objects.size⟩, after) ∧
      heap.ChangesAt none after ∧ heap.objects.size < after.objects.size ∧
      (after.object ⟨heap.objects.size⟩).origin = origin ∧
      (after.object ⟨heap.objects.size⟩).content? 0 = some value := by
  let record := HostObject.ofLayout origin none
  let middle := (heap.allocate record).2
  let made : ObjectId := ⟨heap.objects.size⟩
  have fresh : middle.object made = record := heap.object_allocate record
  have kind : middle.kindAt? (.field made 0) = some .reference := by
    rw [Heap.kindAt?, fresh]
    exact laidOut
  obtain ⟨cell, present, sameKind⟩ := Heap.exists_cell kind
  have ran : ((storingConstructor signature).body origin [value]).run heap =
      (.ok made, middle.setCell ⟨.reference, value, fits⟩ (.field made 0)) := by
    simp only [storingConstructor, Action.run_bind, Heap.run_instantiate]
    rw [Heap.run_store present]
    simp only [sameKind, fits, dite_true, Action.run_pure]
    rfl
  have puts := Heap.puts_setCell kind fits
  have sizes : middle.objects.size = heap.objects.size + 1 := by simp [middle, Heap.allocate]
  have room := puts.changes.size_le
  refine ⟨_, ran, ⟨by omega, fun other known _ => ?_⟩, by omega, ?_, puts.content?_eq⟩
  -- The store goes to the object that was made just before.
  · have apart : some made ≠ some other := by
      rintro ⟨⟩
      exact Nat.lt_irrefl _ known
    rw [puts.changes.object_eq other (by omega) apart]
    exact (heap.changesAt_allocate record).object_eq other known (Option.some_ne_none other).symm
  · rw [puts.origin_eq, fresh]
    rfl

end BaseClass

namespace BoundField

/-- A field of instances that holds an object or null. -/
structure HoldsObject (field : BoundField) : Prop where
  laidOut : field.LaidOut
  kind_eq : field.kind = .reference
  isStatic_eq : field.isStatic = false

def getObject (field : BoundField) (object : ObjectId) :
    Action Heap Fault (Option ObjectId) := do
  let value ← field.get .plain (some object)
  value.toObject

def setObject (field : BoundField) (object : ObjectId) (target : Option ObjectId) :
    Action Heap Fault Unit :=
  field.set .plain (some object) (.ofObject? target)

variable {field : BoundField} {heap : Heap} {object : ObjectId}

theorem readsOnly_getObject (field : BoundField) (object : ObjectId) :
    (field.getObject object).ReadsOnly :=
  .bind (field.readsOnly_get .plain (some object)) fun _ => .liftM _

theorem HoldsObject.instanceKinds_slot (holds : field.HoldsObject) :
    field.declaring.layout.instanceKinds[field.field.slot]? = some .reference := by
  have laidOut := holds.laidOut
  rw [LaidOut, holds.isStatic_eq, holds.kind_eq] at laidOut
  exact laidOut

theorem HoldsObject.place_eq (holds : field.HoldsObject)
    (own : (heap.object object).origin = field.declaring.layout) :
    field.place heap (some object) = .ok (.field object field.field.slot) := by
  simp [BoundField.place, holds.isStatic_eq, own]

theorem HoldsObject.run_getObject (holds : field.HoldsObject)
    (own : (heap.object object).origin = field.declaring.layout) {target : Option ObjectId}
    (held : (heap.object object).content? field.field.slot = some (.ofObject? target)) :
    ((field.getObject object).run heap).1 = .ok target := by
  have reached := holds.place_eq own
  obtain ⟨cell, present, sameKind⟩ :=
    Heap.exists_cell (kindAt?_place holds.laidOut reached)
  have content : cell.content = .ofObject? target := by
    have held : (heap.cell? (.field object field.field.slot)).map Cell.content =
      some (.ofObject? target) := held
    rw [present] at held
    exact Option.some.inj held
  rw [getObject, Action.run_bind, run_get_of_place holds.laidOut reached present sameKind, content]
  exact Value.toObject_ofObject? target

theorem HoldsObject.run_setObject (holds : field.HoldsObject)
    (own : (heap.object object).origin = field.declaring.layout) (target : Option ObjectId) :
    object.index < heap.objects.size ∧
      ∃ after, (field.setObject object target).run heap = (.ok (), after) ∧
        heap.Puts object field.field.slot (.ofObject? target) after := by
  have reached := holds.place_eq own
  have kind := kindAt?_place holds.laidOut reached
  obtain ⟨cell, present, sameKind⟩ := Heap.exists_cell kind
  rw [holds.kind_eq] at kind
  have puts := Heap.puts_setCell kind (Value.fits_ofObject? target)
  refine ⟨Heap.index_lt_of_kindAt? kind, _, ?_, puts⟩
  rw [setObject, run_set_of_place holds.laidOut reached present sameKind, Heap.run_store present]
  simp only [sameKind, holds.kind_eq, Value.fits_ofObject?, dite_true]

/-- An instance of another class is refused. -/
theorem HoldsObject.run_setObject_of_ne (holds : field.HoldsObject)
    (other : (heap.object object).origin ≠ field.declaring.layout) (target : Option ObjectId) :
    ∃ fault, (field.setObject object target).run heap = (.error fault, heap) := by
  have refused : field.place heap (some object) =
      .error (.cannotCast (heap.className object) field.declaring.name) := by
    simp [BoundField.place, holds.isStatic_eq, other]
  exact ⟨_, run_set_of_fault holds.laidOut refused .plain _⟩

end BoundField

namespace Heap

variable {heap : Heap}

theorem payload?_allocate (heap : Heap) (record : HostObject) (object : ObjectId) :
    (heap.allocate record).2.payload? object =
      if object.index = heap.objects.size then record.payload else heap.payload? object := by
  by_cases last : object.index = heap.objects.size <;>
    simp [payload?, Heap.object, allocate, Array.getElem?_push, last]

theorem text?_ref {object : ObjectId} {content : String}
    (carried : heap.payload? object = some (.text content)) :
    heap.text? (.ref object) = some content := by
  simp [text?, Value.object?, carried]

end Heap

namespace BaseClass

variable {heap : Heap} {object : ObjectId} {entries : List (String × String)}

/-- The text of a call's result, none for null. -/
def asText (call : Action Heap Fault Value) : Action Heap Fault (Option String) := do
  let value ← call
  match value, (← get).text? value with
  | .null, _ => return none
  | _, some text => return some text
  | other, none => throw (.wrongValueKind stringName other.kindName)

def propertyOf (object : ObjectId) (key : String) : Action Heap Fault (Option String) := do
  let key ← newString key
  asText (getProperty (some object) [.ref key])

def setPropertyOf (object : ObjectId) (key value : String) :
    Action Heap Fault (Option String) := do
  let key ← newString key
  let value ← newString value
  asText (setProperty (some object) [.ref key, .ref value])

/-- A text that a method answers arrives as it is. -/
theorem run_asText {call : Action Heap Fault Value} {middle : Heap} {text : Option String}
    (ends : call.run heap = (textValue text).run middle) :
    ∃ after, (asText call).run heap = (.ok text, after) ∧ middle.ChangesAt none after := by
  cases text with
  | none =>
    refine ⟨middle, ?_, .refl none middle⟩
    rw [asText, Action.run_bind, ends]
    rfl
  | some content =>
    refine ⟨_, ?_, middle.changesAt_allocate (.ofLayout stringLayout (some (.text content)))⟩
    have carried := congrArg HostObject.payload
      (middle.object_allocate (.ofLayout stringLayout (some (.text content))))
    rw [asText, Action.run_bind, ends]
    simp only [textValue, newString, Action.run_bind, Heap.run_instantiate, Action.run_pure,
      Action.run_get, Heap.text?_ref carried]

theorem run_asText_of_fault {call : Action Heap Fault Value} {fault : Fault} {after : Heap}
    (failed : call.run heap = (.error fault, after)) :
    (asText call).run heap = (.error fault, after) := by
  rw [asText, Action.run_bind, failed]

theorem propertyEntries_of_carried (method : String)
    (carried : heap.payload? object = some (.properties entries)) :
    propertyEntries heap (some object) method = .ok (object, entries) := by
  simp only [propertyEntries, carried]

theorem propertyEntries_of_other (method : String)
    (other : ∀ entries, heap.payload? object ≠ some (.properties entries)) :
    ∃ fault, propertyEntries heap (some object) method = .error fault := by
  unfold propertyEntries
  split
  case h_1 none => cases none
  case h_2 receiver same =>
    cases same
    split
    case h_1 entries carried => exact absurd carried (other entries)
    case h_2 => exact ⟨_, rfl⟩

/-- The heap with one more string. -/
def withString (heap : Heap) (content : String) : Heap :=
  (heap.allocate (.ofLayout stringLayout (some (.text content)))).2

theorem text?_withString (heap : Heap) (content : String) :
    (withString heap content).text? (.ref ⟨heap.objects.size⟩) = some content :=
  Heap.text?_ref (congrArg HostObject.payload (heap.object_allocate _))

theorem payload?_withString (heap : Heap) (content : String) :
    (withString heap content).payload? object = some (.properties entries) ↔
      heap.payload? object = some (.properties entries) := by
  rw [withString, Heap.payload?_allocate]
  split
  case isTrue last =>
    constructor
    · intro carried
      cases carried
    · intro carried
      exact absurd last (Nat.ne_of_lt (Heap.index_lt_of_payload? carried))
  case isFalse => rfl

theorem run_propertyOf (carried : heap.payload? object = some (.properties entries))
    (key : String) :
    ∃ after, (propertyOf object key).run heap = (.ok (entries.lookup key), after) ∧
      heap.ChangesAt none after := by
  have found := (payload?_withString heap key).2 carried
  have ends : (getProperty (some object) [.ref ⟨heap.objects.size⟩]).run (withString heap key) =
      (textValue (entries.lookup key)).run (withString heap key) := by
    simp only [getProperty, Action.run_bind, Action.run_get, Action.run_liftM,
      propertyEntries_of_carried _ found, textArgument, List.getElem?_cons_zero,
      text?_withString]
  obtain ⟨after, ran, changes⟩ := run_asText ends
  exact ⟨after, ran, (heap.changesAt_allocate _).trans changes⟩

theorem changesAt_propertyOf (heap : Heap) (object : ObjectId) (key : String) :
    heap.ChangesAt none ((propertyOf object key).run heap).2 := by
  by_cases carried : ∃ entries, heap.payload? object = some (.properties entries)
  · obtain ⟨entries, carried⟩ := carried
    obtain ⟨after, ran, changes⟩ := run_propertyOf carried key
    rw [ran]
    exact changes
  · have other : ∀ entries, (withString heap key).payload? object ≠ some (.properties entries) :=
      fun entries found => carried ⟨entries, (payload?_withString heap key).1 found⟩
    obtain ⟨fault, refused⟩ := propertyEntries_of_other "getProperty" other
    have failed : (getProperty (some object) [.ref ⟨heap.objects.size⟩]).run
        (withString heap key) = (.error fault, withString heap key) := by
      simp only [getProperty, Action.run_bind, Action.run_get, Action.run_liftM, refused]
    have ran : (propertyOf object key).run heap = (.error fault, withString heap key) :=
      run_asText_of_fault failed
    rw [ran]
    exact heap.changesAt_allocate _

def updated (entries : List (String × String)) (key value : String) : List (String × String) :=
  (key, value) :: entries.filter (·.1 != key)

theorem lookup_updated (entries : List (String × String)) (key value other : String) :
    (updated entries key value).lookup other =
      if other = key then some value else entries.lookup other := by
  rw [updated, lookup_replaced]

/-- The heap with the strings of a key and a value, which are its last two objects. -/
def withEntry (heap : Heap) (key value : String) : Heap := withString (withString heap key) value

theorem changesAt_withEntry (heap : Heap) (key value : String) :
    heap.ChangesAt none (withEntry heap key value) :=
  (heap.changesAt_allocate _).trans ((withString heap key).changesAt_allocate _)

theorem payload?_withEntry (key value : String) :
    (withEntry heap key value).payload? object = some (.properties entries) ↔
      heap.payload? object = some (.properties entries) :=
  (payload?_withString (withString heap key) value).trans (payload?_withString heap key)

theorem textArguments_withEntry (heap : Heap) (key value method : String) :
    let arguments := [.ref ⟨heap.objects.size⟩, .ref ⟨(withString heap key).objects.size⟩]
    textArgument (withEntry heap key value) arguments 0 method = .ok key ∧
      textArgument (withEntry heap key value) arguments 1 method = .ok value := by
  have known : heap.objects.size < (withString heap key).objects.size := by
    simp [withString, Heap.allocate]
  have kept : (withEntry heap key value).object ⟨heap.objects.size⟩ = _ :=
    ((withString heap key).changesAt_allocate _).object_eq ⟨heap.objects.size⟩ known
      (Option.some_ne_none _).symm
  have first : (withEntry heap key value).text? (.ref ⟨heap.objects.size⟩) = some key := by
    refine Heap.text?_ref ?_
    rw [Heap.payload?, kept]
    exact congrArg HostObject.payload (heap.object_allocate _)
  have second := text?_withString (withString heap key) value
  constructor
  · simp only [textArgument, List.getElem?_cons_zero, first]
  · simp only [textArgument, List.getElem?_cons_succ, List.getElem?_cons_zero, withEntry, second]

theorem run_setPropertyOf (carried : heap.payload? object = some (.properties entries))
    (key value : String) :
    object.index < heap.objects.size ∧
      ∃ after, (setPropertyOf object key value).run heap = (.ok (entries.lookup key), after) ∧
        heap.ChangesAt (some object) after ∧
        after.object object = { heap.object object with
          payload := some (.properties (updated entries key value)) } := by
  let change (record : HostObject) : HostObject :=
    { record with payload := some (.properties (updated entries key value)) }
  let middle := (withEntry heap key value).modifyObject object change
  have known := Heap.index_lt_of_payload? carried
  have found := (payload?_withEntry key value).2 carried
  have ⟨first, second⟩ := textArguments_withEntry heap key value "setProperty"
  have early := changesAt_withEntry heap key value
  have late := (withEntry heap key value).changesAt_modifyObject object change
  have ends : (setProperty (some object) [.ref ⟨heap.objects.size⟩,
      .ref ⟨(withString heap key).objects.size⟩]).run (withEntry heap key value) =
      (textValue (entries.lookup key)).run middle := by
    simp only [setProperty, Action.run_bind, Action.run_get, Action.run_liftM,
      propertyEntries_of_carried _ found, first, second, Action.run_set]
    rfl
  obtain ⟨after, ran, changes⟩ := run_asText ends
  refine ⟨known, after, ran, ((early.weaken _).trans late).trans (changes.weaken _), ?_⟩
  have inside : object.index < (withEntry heap key value).objects.size :=
    Nat.lt_of_lt_of_le known early.size_le
  have apart : none ≠ some object := (Option.some_ne_none object).symm
  have kept := changes.object_eq object (Nat.lt_of_lt_of_le inside late.size_le) apart
  rw [kept, Heap.object_modifyObject, if_pos ⟨rfl, inside⟩, early.object_eq object known apart]

/-- An object without a property table is refused. -/
theorem run_setPropertyOf_of_other
    (other : ∀ entries, heap.payload? object ≠ some (.properties entries)) (key value : String) :
    ∃ fault after, (setPropertyOf object key value).run heap = (.error fault, after) ∧
      heap.ChangesAt none after := by
  have unlike : ∀ entries, (withEntry heap key value).payload? object ≠
      some (.properties entries) :=
    fun entries found => other entries ((payload?_withEntry key value).1 found)
  obtain ⟨fault, refused⟩ := propertyEntries_of_other "setProperty" unlike
  have failed : (setProperty (some object) [.ref ⟨heap.objects.size⟩,
      .ref ⟨(withString heap key).objects.size⟩]).run (withEntry heap key value) =
      (.error fault, withEntry heap key value) := by
    simp only [setProperty, Action.run_bind, Action.run_get, Action.run_liftM, refused]
  exact ⟨fault, _, run_asText_of_fault failed, changesAt_withEntry heap key value⟩

end BaseClass

end GuestBridge
