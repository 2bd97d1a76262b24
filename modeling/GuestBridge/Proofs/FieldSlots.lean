import GuestBridge.Access.Plan
import Mathlib.Data.List.Basic

/-!
Slots of a class that was built. Static and instance fields are numbered apart, each from zero in
the order of declaration, so a declared field names a cell of its own kind, which no other declared
field names.
-/
namespace GuestBridge

private theorem map_eq_ok {fault value other : Type} {outcome : Except fault value}
    {change : value → other} {result : other} (mapped : outcome.map change = .ok result) :
    ∃ first, outcome = .ok first ∧ change first = result := by
  cases outcome with
  | error failure => cases mapped
  | ok first => exact ⟨first, rfl, Except.ok.inj mapped⟩

namespace HostField

def isStatic (field : HostField) : Bool := field.modifiers.isStatic

def declaration (field : HostField) : FieldDeclaration :=
  ⟨field.name, field.signature, field.modifiers⟩

/-- The fields whose cells lie beside each other: the static ones, or those of instances. -/
def sharing (isStatic : Bool) (fields : List HostField) : List HostField :=
  fields.filter fun field => field.isStatic == isStatic

theorem sharing_cons (isStatic : Bool) (field : HostField) (rest : List HostField) :
    sharing isStatic (field :: rest) =
      if field.isStatic == isStatic then field :: sharing isStatic rest
      else sharing isStatic rest := List.filter_cons

end HostField

open HostField in
/-- Each storage is numbered without a gap from its next free slot. -/
theorem layOutFields_slots {nextStatic nextInstance : Nat} {declarations : List FieldDeclaration}
    {fields : List HostField}
    (laidOut : layOutFields nextStatic nextInstance declarations = .ok fields) :
    (sharing true fields).map slot = List.range' nextStatic (sharing true fields).length ∧
      (sharing false fields).map slot =
        List.range' nextInstance (sharing false fields).length := by
  induction declarations generalizing nextStatic nextInstance fields with
  | nil =>
    cases laidOut
    exact ⟨rfl, rfl⟩
  | cons declaration rest ih =>
    rw [layOutFields] at laidOut
    cases named : FieldKind.ofSignature? declaration.signature with
    | none => simp [named] at laidOut
    | some kind =>
      cases storage : declaration.modifiers.isStatic <;> rw [named] at laidOut <;>
        obtain ⟨later, others, rfl⟩ := map_eq_ok laidOut
      all_goals
        simp only [storage, if_true, Bool.false_eq_true, if_false] at others
        have ⟨statics, instances⟩ := ih others
        simp [sharing_cons, HostField.isStatic, storage, statics, instances, List.range'_succ]

theorem layOutFields_declarations {nextStatic nextInstance : Nat}
    {declarations : List FieldDeclaration} {fields : List HostField}
    (laidOut : layOutFields nextStatic nextInstance declarations = .ok fields) :
    fields.map HostField.declaration = declarations ∧
      ∀ field ∈ fields, FieldKind.ofSignature? field.signature = some field.kind := by
  induction declarations generalizing nextStatic nextInstance fields with
  | nil =>
    cases laidOut
    simp
  | cons declaration rest ih =>
    rw [layOutFields] at laidOut
    cases named : FieldKind.ofSignature? declaration.signature with
    | none => simp [named] at laidOut
    | some kind =>
      rw [named] at laidOut
      obtain ⟨others, behind, rfl⟩ := map_eq_ok laidOut
      have ⟨names, kinds⟩ : others.map HostField.declaration = rest ∧
          ∀ field ∈ others, FieldKind.ofSignature? field.signature = some field.kind := by
        split at behind
        · exact ih behind
        · exact ih behind
      simp only [List.map_cons, names, List.forall_mem_cons, named, true_and]
      exact ⟨rfl, kinds⟩

namespace ClassLayout

/-- The kinds of the class's own cells, or of an instance's. -/
def storageKinds (layout : ClassLayout) (isStatic : Bool) : List FieldKind :=
  if isStatic then layout.staticKinds else layout.instanceKinds

theorem storageKinds_eq (layout : ClassLayout) (isStatic : Bool) :
    layout.storageKinds isStatic =
      (HostField.sharing isStatic layout.fields).map HostField.kind := by
  cases isStatic <;> simp [storageKinds, staticKinds, instanceKinds, HostField.sharing,
    HostField.isStatic]

end ClassLayout

namespace ClassDefinition

variable {definition : ClassDefinition} {identity : Nat} {owner : HostClass}

theorem layOutFields_of_build (built : definition.build identity = .ok owner) :
    layOutFields 0 0 definition.fields = .ok owner.layout.fields := by
  obtain ⟨fields, laidOut, rfl⟩ := map_eq_ok built
  exact laidOut

theorem identity_of_build (built : definition.build identity = .ok owner) :
    owner.layout.identity = identity := by
  obtain ⟨fields, -, rfl⟩ := map_eq_ok built
  rfl

theorem sharing_slot (built : definition.build identity = .ok owner) {field : HostField}
    (declared : field ∈ owner.layout.fields) :
    (HostField.sharing field.isStatic owner.layout.fields)[field.slot]? = some field := by
  have ⟨statics, instances⟩ := layOutFields_slots (layOutFields_of_build built)
  have numbered : (HostField.sharing field.isStatic owner.layout.fields).map HostField.slot =
      List.range' 0 (HostField.sharing field.isStatic owner.layout.fields).length := by
    cases field.isStatic
    · exact instances
    · exact statics
  have shared : field ∈ HostField.sharing field.isStatic owner.layout.fields := by
    simp [HostField.sharing, declared]
  obtain ⟨index, bound, atIndex⟩ := List.getElem_of_mem shared
  have slot : field.slot = index := by
    have := congrArg (·[index]?) numbered
    simpa [bound, atIndex] using this
  rw [slot, List.getElem?_eq_getElem bound, atIndex]

/-- A declared field's slot is one of its storage, and laid out for the field's kind. -/
theorem storageKinds_slot (built : definition.build identity = .ok owner) {field : HostField}
    (declared : field ∈ owner.layout.fields) :
    (owner.layout.storageKinds field.isStatic)[field.slot]? = some field.kind := by
  rw [owner.layout.storageKinds_eq, List.getElem?_map, sharing_slot built declared]
  rfl

theorem pairwise_slot_ne (built : definition.build identity = .ok owner) :
    owner.layout.fields.Pairwise fun first second =>
      first.isStatic = second.isStatic → first.slot ≠ second.slot := by
  have ⟨statics, instances⟩ := layOutFields_slots (layOutFields_of_build built)
  have apart (storage : Bool) : owner.layout.fields.Pairwise fun first second =>
      (first.isStatic == storage) = true → (second.isStatic == storage) = true →
        first.slot ≠ second.slot := by
    rw [← List.pairwise_filter, ← List.pairwise_map (f := HostField.slot) (R := (· ≠ ·))]
    cases storage
    · exact instances ▸ List.nodup_range'
    · exact statics ▸ List.nodup_range'
  refine ((apart true).and (apart false)).imp fun {first second} both same => ?_
  cases storage : first.isStatic
  · exact both.2 (by simp [storage]) (by simp [← same, storage])
  · exact both.1 (by simp [storage]) (by simp [← same, storage])

/-- Two declarations of the same storage never share a slot. -/
theorem position_eq_of_slot_eq (built : definition.build identity = .ok owner)
    {first second : Nat} {left right : HostField}
    (atFirst : owner.layout.fields[first]? = some left)
    (atSecond : owner.layout.fields[second]? = some right)
    (sameStorage : left.isStatic = right.isStatic) (sameSlot : left.slot = right.slot) :
    first = second := by
  obtain ⟨firstBound, rfl⟩ := List.getElem?_eq_some_iff.1 atFirst
  obtain ⟨secondBound, rfl⟩ := List.getElem?_eq_some_iff.1 atSecond
  have apart := List.pairwise_iff_getElem.1 (pairwise_slot_ne built)
  rcases Nat.lt_trichotomy first second with below | same | above
  · exact absurd sameSlot (apart first second firstBound secondBound below sameStorage)
  · exact same
  · exact absurd sameSlot.symm (apart second first secondBound firstBound above sameStorage.symm)

end ClassDefinition

end GuestBridge
