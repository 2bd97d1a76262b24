import GuestBridge.Heap

/-!
Finding the objects that nobody holds any longer. A class is held by a root and by its held
instances. An object is held by a root, by a cell of a held object, or by a held class: by its
static cells and by what its methods keep. Objects and classes that hold each other in a circle
stay.
-/
namespace GuestBridge.Heap

structure Roots where
  objects : List ObjectId := []
  classes : List ClassLayout := []

def references {kinds : List FieldKind} (cells : Cells kinds) : List ObjectId :=
  cells.toList.filterMap fun cell => cell.content.object?

/-- For every number below a bound, whether it is among these. -/
def marks (bound : Nat) (numbers : List Nat) : Array Bool :=
  numbers.foldl (fun marked number => marked.setIfInBounds number true)
    (Array.replicate bound false)

def remaining (heap : Heap) : List HostObject := heap.objects.toList.filter (!·.departed)

def heldClasses (heap : Heap) (roots : Roots) : Array Bool :=
  marks heap.nextIdentity
    ((roots.classes ++ heap.remaining.map HostObject.origin).map ClassLayout.identity)

/-- What nobody can reach any longer of the static cells and constants goes. -/
def dropClasses (heap : Heap) (held : Array Bool) : Heap :=
  { heap with
    statics := heap.statics.filter fun area => held.getD area.owner.identity false
    constants := heap.constants.filter fun entry => held.getD entry.1.identity false }

def referred (heap : Heap) : List ObjectId :=
  heap.statics.flatMap (fun area => references area.cells) ++
    heap.constants.flatMap (·.2) ++ heap.remaining.flatMap fun object => references object.cells

/-- Lets go of the classes and objects that nobody holds now. -/
def reclaimOnce (heap : Heap) (roots : Roots) : Heap :=
  let kept := heap.dropClasses (heap.heldClasses roots)
  let held := marks kept.objects.size ((roots.objects ++ kept.referred).map ObjectId.index)
  { kept with
    objects := kept.objects.mapIdx fun index object =>
      { object with departed := object.departed || !held.getD index false } }

def departures (heap : Heap) : Nat := (heap.objects.filter HostObject.departed).size

/-- Lets go of classes and objects until every one left is held. -/
def reclaim (heap : Heap) (roots : Roots) : Heap :=
  go heap.objects.size heap
where
  go : Nat → Heap → Heap
    | 0, heap => heap
    | fuel + 1, heap =>
      let after := heap.reclaimOnce roots
      if after.departures = heap.departures then after else go fuel after

end GuestBridge.Heap
