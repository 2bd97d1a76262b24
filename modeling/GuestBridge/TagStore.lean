import GuestBridge.GuestType
import GuestBridge.Heap

/-!
Guest types attached to host objects from outside, by identity. A store does not keep its objects:
the entry of one that nobody holds answers nothing and goes at the next sweep. With a sweep
interval other than zero, every so many insertions sweep the store; an insertion counts also when
it replaces the tag of the same object.
-/
namespace GuestBridge

/-- The entries stand from the newest object to the oldest one. -/
structure TagStore where
  interval : Nat
  entries : List (ObjectId × GuestType) := []
  insertions : Nat := 0

namespace TagStore

/-- The sweep interval of the store that all bridges share. -/
def sharedInterval : Nat := 1024

def size (store : TagStore) : Nat := store.entries.length

def liveEntries (store : TagStore) (heap : Heap) : List (ObjectId × GuestType) :=
  store.entries.filter fun entry => heap.isHeld entry.1

def liveSize (store : TagStore) (heap : Heap) : Nat := (store.liveEntries heap).length

def sweep (store : TagStore) (heap : Heap) : TagStore :=
  { store with entries := store.liveEntries heap }

def purge (store : TagStore) (heap : Heap) : Nat × TagStore :=
  (store.size - (store.sweep heap).size, store.sweep heap)

/-- Puts an entry in its place, instead of one for the same object. -/
def insertEntry (object : ObjectId) (tag : GuestType) :
    List (ObjectId × GuestType) → List (ObjectId × GuestType)
  | [] => [(object, tag)]
  | entry :: rest =>
    if entry.1.index < object.index then (object, tag) :: entry :: rest
    else if entry.1 = object then (object, tag) :: rest
    else entry :: insertEntry object tag rest

def insert (store : TagStore) (object : ObjectId) (tag : GuestType) : TagStore :=
  { store with
    entries := insertEntry object tag store.entries
    insertions := store.insertions + 1 }

def setTag (store : TagStore) (heap : Heap) (object : ObjectId) (tag : GuestType) : TagStore :=
  let inserted := store.insert object tag
  if inserted.interval ≠ 0 ∧ inserted.insertions % inserted.interval = 0 then
    inserted.sweep heap
  else inserted

def tag? (store : TagStore) (heap : Heap) (object : ObjectId) : Option GuestType :=
  if heap.isHeld object then store.entries.lookup object else none

/-- Whether the object carries a tag assignable to the array type of this type and rank. -/
def isArrayInstance (store : TagStore) (heap : Heap) (object : ObjectId) (type : GuestType)
    (rank : Nat) : Bool :=
  match store.tag? heap object with
  | some tag => tag.assignable (type.arrayOf rank)
  | none => false

/-- The failed cast of an object of a class to an array of a guest type. -/
def castFault (className : String) (type : GuestType) (rank : Nat) : Fault :=
  .cannotCast className (String.ofList (List.replicate rank '[') ++ "L" ++ type.name ++ ";")

/-- Null passes every cast. -/
def castArray (store : TagStore) (heap : Heap) (object : Option ObjectId) (type : GuestType)
    (rank : Nat) : Except Fault Unit :=
  match object with
  | none => .ok ()
  | some object =>
    if store.isArrayInstance heap object type rank then .ok ()
    else .error (castFault (heap.className object) type rank)

end TagStore

end GuestBridge
