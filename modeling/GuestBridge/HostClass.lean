import GuestBridge.Heap

/-!
Host classes: a layout together with the methods and constructors that guest code can reach. A
definition fixes a slot for every field, all or nothing, and takes a fresh identity.
-/
namespace GuestBridge

/-- A method's body gets the receiver, absent for a static method, and the arguments. Its class
holds the objects that the body keeps for its answers. -/
structure HostMethod where
  name : String
  signature : String
  isStatic : Bool
  body : Option ObjectId → List Value → Action Heap Fault Value
  keeps : List ObjectId := []

/-- A constructor's body gets the layout of the class it belongs to, and the arguments. -/
structure HostConstructor where
  signature : String
  body : ClassLayout → List Value → Action Heap Fault ObjectId

structure HostClass where
  layout : ClassLayout
  methods : List HostMethod
  constructors : List HostConstructor

namespace HostClass

def name (owner : HostClass) : String := owner.layout.name

/-- The first method of that name and signature. -/
def findMethod? (owner : HostClass) (name signature : String) : Option HostMethod :=
  owner.methods.find? fun method => method.name == name && method.signature == signature

/-- The first constructor of that signature. -/
def findConstructor? (owner : HostClass) (signature : String) : Option HostConstructor :=
  owner.constructors.find? fun constructor => constructor.signature == signature

end HostClass

/-- Lays out fields from the given next free slots; a signature that names no type fails. -/
def layOutFields (nextStatic nextInstance : Nat) :
    List FieldDeclaration → Except Fault (List HostField)
  | [] => .ok []
  | declaration :: rest =>
    match FieldKind.ofSignature? declaration.signature with
    | none => .error (.wrongValueKind "field signature" declaration.signature)
    | some kind =>
      let isStatic := declaration.modifiers.isStatic
      let slot := if isStatic then nextStatic else nextInstance
      let field := ⟨declaration.name, declaration.signature, kind, declaration.modifiers, slot⟩
      let others :=
        if isStatic then layOutFields (nextStatic + 1) nextInstance rest
        else layOutFields nextStatic (nextInstance + 1) rest
      others.map (field :: ·)

structure ClassDefinition where
  name : String
  isValueType : Bool := false
  fields : List FieldDeclaration := []
  methods : List HostMethod := []
  constructors : List HostConstructor := []

namespace ClassDefinition

/-- The class of a definition under a given identity. -/
def build (definition : ClassDefinition) (identity : Nat) : Except Fault HostClass :=
  (layOutFields 0 0 definition.fields).map fun fields =>
    { layout := ⟨identity, definition.name, definition.isValueType, fields⟩
      methods := definition.methods
      constructors := definition.constructors }

/-- Builds the class under an identity of its own. -/
def define (definition : ClassDefinition) : Action Heap Fault HostClass := do
  let heap ← get
  let built ← definition.build heap.nextIdentity
  let kept := definition.methods.flatMap HostMethod.keeps
  set { heap with
    nextIdentity := heap.nextIdentity + 1
    constants := if kept.isEmpty then heap.constants else (built.layout, kept) :: heap.constants }
  return built

end ClassDefinition

/-- The classes known by name; a later registration of a name replaces the earlier one. -/
structure ClassRegistry where
  classes : List HostClass := []

namespace ClassRegistry

def find? (registry : ClassRegistry) (name : String) : Option HostClass :=
  registry.classes.find? (·.name == name)

def register (registry : ClassRegistry) (owner : HostClass) : ClassRegistry :=
  ⟨owner :: registry.classes.filter (·.name != owner.name)⟩

def resolve (registry : ClassRegistry) (name : String) : Except Fault HostClass :=
  match registry.find? name with
  | some owner => .ok owner
  | none => .error (.typeNotFound name)

def size (registry : ClassRegistry) : Nat := registry.classes.length

def layouts (registry : ClassRegistry) : List ClassLayout := registry.classes.map HostClass.layout

end ClassRegistry

end GuestBridge
