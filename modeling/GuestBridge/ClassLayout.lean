import GuestBridge.Value

/-!
Layout of a host class: its identity, its name and its fields with their slots. Static and instance
fields are numbered separately, each in the order of declaration.
-/
namespace GuestBridge

structure FieldModifiers where
  isStatic : Bool := false
  isFinal : Bool := false
  isVolatile : Bool := false
  deriving DecidableEq

structure FieldDeclaration where
  name : String
  signature : String
  modifiers : FieldModifiers
  deriving DecidableEq

/-- A field with its storage kind and its slot among the static or the instance fields. -/
structure HostField where
  name : String
  signature : String
  kind : FieldKind
  modifiers : FieldModifiers
  slot : Nat
  deriving DecidableEq

/-- Layouts are equal exactly when they are the same class: every class that is defined takes an
identity of its own. -/
structure ClassLayout where
  identity : Nat
  name : String
  isValueType : Bool
  fields : List HostField
  deriving DecidableEq

namespace ClassLayout

def instanceKinds (layout : ClassLayout) : List FieldKind :=
  (layout.fields.filter fun field => !field.modifiers.isStatic).map HostField.kind

/-- The kinds of the class's own cells, in slot order. -/
def staticKinds (layout : ClassLayout) : List FieldKind :=
  (layout.fields.filter fun field => field.modifiers.isStatic).map HostField.kind

def findField? (layout : ClassLayout) (name signature : String) : Option HostField :=
  layout.fields.find? fun field => field.name == name && field.signature == signature

end ClassLayout

end GuestBridge
