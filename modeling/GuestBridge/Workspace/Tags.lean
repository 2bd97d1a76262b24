import GuestBridge.Workspace

/-!
Tag stores of a workspace. One name belongs to the store that all bridges share. Objects that
nothing holds any longer are let go of before a store is looked at.
-/
namespace GuestBridge.Workspace

def sharedStoreName : String := "global"

def tagStore (name : String) : Work TagStore := do
  if name = sharedStoreName then return (← get).world.tags else named Shelf.stores name

def setTagStore (name : String) (store : TagStore) : Work Unit :=
  if name = sharedStoreName then onWorld (modify fun world => { world with tags := store })
  else bind Shelf.stores name store

/-- The store and the heap as they are once departed objects are gone. -/
def settledStore (name : String) : Work (TagStore × Heap) := do
  reclaim
  return (← tagStore name, (← get).world.heap)

def tagObject (name : String) (object : ObjectId) (type : GuestType) : Work Unit := do
  let (store, heap) ← settledStore name
  setTagStore name (store.setTag heap object type)

/-- Tags a new object, which departs right afterwards. -/
def tagPassing (type : GuestType) (before : TagStore × Heap) : TagStore × Heap :=
  let (object, heap) := before.2.allocate .unknown
  (before.1.setTag heap object type, heap.release object)

/-- Tags that many new objects, each of which departs before the next one comes. -/
def tagShortLived (name : String) (type : GuestType) (count : Nat) : Work Unit := do
  let (store, heap) := Nat.repeat (tagPassing type) count (← settledStore name)
  onHeap (modify fun _ => heap)
  setTagStore name store

/-- Sweeps a store and answers how many entries went. -/
def purgeTags (name : String) : Work Nat := do
  let (store, heap) ← settledStore name
  let (removed, after) := store.purge heap
  setTagStore name after
  return removed

end GuestBridge.Workspace
