import GuestBridge.Action
import GuestBridge.Cell
import GuestBridge.ClassLayout

/-!
The host objects, and what belongs to classes: their static cells and the objects that their
methods keep. A place names one cell; reading and writing go through places. Objects are only ever
added; one that nobody holds any longer is marked as departed and keeps its identity. Static cells
that were never written read as zero.
-/
namespace GuestBridge

/-- Host data that an object carries beside its cells. -/
inductive Payload where
  | text (content : String)
  | properties (entries : List (String × String))
  | stream (stream : StreamId)
  | socket (socket : SocketId)
  deriving DecidableEq

structure HostObject where
  origin : ClassLayout
  cells : Cells origin.instanceKinds
  payload : Option Payload := none
  departed : Bool := false

namespace HostObject

def ofLayout (origin : ClassLayout) (payload : Option Payload) : HostObject :=
  { origin, cells := .zero _, payload }

/-- What an identity that was never given out reads as: an instance of no defined class. -/
def unknown : HostObject := ofLayout ⟨0, "", false, []⟩ none

end HostObject

structure StaticCells where
  owner : ClassLayout
  cells : Cells owner.staticKinds

inductive Place where
  | static (owner : ClassLayout) (slot : Nat)
  | field (object : ObjectId) (slot : Nat)
  deriving DecidableEq

structure Heap where
  objects : Array HostObject := #[]
  statics : List StaticCells := []
  /-- The objects that the methods of classes keep. -/
  constants : List (ClassLayout × List ObjectId) := []
  /-- Class identities from here on are free. Zero is no class, and the first few are taken by the
  classes that every registry shares. -/
  nextIdentity : Nat := 4

namespace Heap

def object (heap : Heap) (object : ObjectId) : HostObject :=
  heap.objects[object.index]?.getD .unknown

def className (heap : Heap) (object : ObjectId) : String := (heap.object object).origin.name

def payload? (heap : Heap) (object : ObjectId) : Option Payload := (heap.object object).payload

def isHeld (heap : Heap) (object : ObjectId) : Bool :=
  match heap.objects[object.index]? with
  | some record => !record.departed
  | none => false

def cell? (heap : Heap) : Place → Option Cell
  | .static owner slot =>
    match heap.statics.find? (·.owner == owner) with
    | some area => area.cells.get? slot
    | none => (Cells.zero owner.staticKinds).get? slot
  | .field object slot => (heap.object object).cells.get? slot

/-- The cell at a place, or the failure that names the missing slot. -/
def cell (heap : Heap) (place : Place) : Except Fault Cell :=
  match heap.cell? place, place with
  | some cell, _ => .ok cell
  | none, .static owner slot =>
    .error (.memberNotFound owner.name ("static #" ++ toString slot) "")
  | none, .field object slot =>
    .error (.memberNotFound (heap.className object) ("#" ++ toString slot) "")

def setStatic (owner : ClassLayout) (slot : Nat) (cell : Cell) :
    List StaticCells → List StaticCells
  | [] => [⟨owner, (Cells.zero _).set slot cell⟩]
  | area :: rest =>
    if area.owner = owner then { area with cells := area.cells.set slot cell } :: rest
    else area :: setStatic owner slot cell rest

def modifyObject (heap : Heap) (object : ObjectId) (change : HostObject → HostObject) : Heap :=
  { heap with objects := heap.objects.modify object.index change }

def setCell (heap : Heap) (cell : Cell) : Place → Heap
  | .static owner slot => { heap with statics := setStatic owner slot cell heap.statics }
  | .field object slot =>
    heap.modifyObject object fun record => { record with cells := record.cells.set slot cell }

/-- Adds an object and gives it an identity that no other object has or had. -/
def allocate (heap : Heap) (record : HostObject) : ObjectId × Heap :=
  (⟨heap.objects.size⟩, { heap with objects := heap.objects.push record })

/-- Nobody holds the object any longer. -/
def release (heap : Heap) (object : ObjectId) : Heap :=
  heap.modifyObject object fun record => { record with departed := true }

def load (place : Place) : Action Heap Fault Value := do
  let heap ← get
  let cell ← heap.cell place
  return cell.content

def store (place : Place) (value : Value) : Action Heap Fault Unit := do
  let heap ← get
  let cell ← heap.cell place
  let updated ← cell.store value
  set (heap.setCell updated place)

def exchange (place : Place) (expected update : Value) : Action Heap Fault Bool := do
  let heap ← get
  let cell ← heap.cell place
  let (swapped, updated) ← cell.exchange expected update
  if swapped then set (heap.setCell updated place)
  return swapped

/-- A new object of a class, with zeroed cells. -/
def instantiate {failure : Type} (origin : ClassLayout) (payload : Option Payload := none) :
    Action Heap failure ObjectId := do
  let heap ← get
  let (object, after) := heap.allocate (.ofLayout origin payload)
  set after
  return object

/-- The text that the value's object carries, whatever its class. -/
def text? (heap : Heap) (value : Value) : Option String :=
  match value.object?.bind heap.payload? with
  | some (.text content) => some content
  | _ => none

end Heap

/-- The object of a reference, none for null; any other value is of the wrong kind. -/
def Value.toObject : Value → Except Fault (Option ObjectId)
  | .null => .ok none
  | .ref object => .ok (some object)
  | other => .error (.wrongValueKind "reference" other.kindName)

end GuestBridge
