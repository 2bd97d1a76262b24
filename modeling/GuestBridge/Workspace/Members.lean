import GuestBridge.Workspace.Bridges

/-!
Registries, accessor tables and base members of a workspace. A table keeps the registry it was made
for, and a registry taken from a bridge stays that bridge's own. Looking at a slot also tells how
often a class was looked up for it.
-/
namespace GuestBridge.Workspace

variable {result : Type}

def classesOf (registry : RegistryRef) : Work ClassRegistry := do
  return (← get).registry registry

def setClasses (registry : RegistryRef) (types : ClassRegistry) : Work Unit :=
  modify fun whole =>
    match registry with
    | .own index => { whole with registries := whole.registries.setIfInBounds index types }
    | .ofBridge index =>
      { whole with
        bridges := whole.bridges.modify index fun known =>
          { known with bridge := { known.bridge with types } } }

def addRegistry : Work RegistryRef := do
  let index := (← get).registries.size
  modify fun whole => { whole with registries := whole.registries.push {} }
  return .own index

/-- Adds fresh base classes to a registry, in place of those of the same names. -/
def addBaseClasses (registry : RegistryRef) : Work Unit := do
  setClasses registry (← onHeap (BaseClass.addTo (← classesOf registry)))

/-- A registry and how often it was asked. -/
abbrev CountedRegistry : Type := ClassRegistry × Nat

def findCounted (name : String) : Action CountedRegistry Fault HostClass := do
  modify fun known => (known.1, known.2 + 1)
  (← get).1.resolve name

/-- Asks a table for a slot. Answers the outcome and how many classes were looked up. -/
def onTable (name : String) (action : Action (AccessorTable × CountedRegistry) Fault result) :
    Work (Except Fault result × Nat) := do
  let known ← named Shelf.tables name
  let types ← classesOf known.registry
  let (outcome, accessors, _, lookups) := action.run (known.accessors, types, 0)
  bind Shelf.tables name { known with accessors }
  return (outcome, lookups)

/-- Asks a slot for any accessor, or for one of a kind. Answers the kind that it gives. -/
def lookAt (table : String) (slot : Nat) (wanted : Option MemberKind) :
    Work (Except Fault MemberKind × Nat) := do
  match wanted with
  | none =>
    let (found, lookups) ← onTable table (AccessorTable.accessor findCounted slot)
    return (found.map Accessor.kind, lookups)
  | some .field =>
    let (found, lookups) ← onTable table (AccessorTable.field findCounted slot)
    return (found.map fun _ => .field, lookups)
  | some .method =>
    let (found, lookups) ← onTable table (AccessorTable.method findCounted slot)
    return (found.map fun _ => .method, lookups)
  | some .constructor =>
    let (found, lookups) ← onTable table (AccessorTable.constructor findCounted slot)
    return (found.map fun _ => .constructor, lookups)

def slotField (table : String) (slot : Nat) : Work BoundField := do
  settle (← onTable table (AccessorTable.field findCounted slot)).1

def slotMethod (table : String) (slot : Nat) : Work BoundMethod := do
  settle (← onTable table (AccessorTable.method findCounted slot)).1

def slotConstructor (table : String) (slot : Nat) : Work BoundConstructor := do
  settle (← onTable table (AccessorTable.constructor findCounted slot)).1

/-- Uses the base members of a name, or without a name those of a bridge. -/
def onMembers (base : Option String) (bridge : String)
    (action : Action MemberSpace Fault result) : Work result := do
  match base with
  | none => onBridge bridge (Session.onMembers action)
  | some name =>
    let known ← named Shelf.bases name
    let types ← classesOf known.registry
    (action.mapFailure .fault).within {
      get := fun whole => ⟨known.accessors, types, whole.world.heap⟩
      set := fun after whole =>
        { whole with
          bases := whole.bases.bind name { known with accessors := after.table }
          world := { whole.world with heap := after.heap } } }

/-- Offers an outcome to a slot that is filled once; a new slot is empty. Answers the slot before,
what the caller gets, and the slot after. -/
def offer (name : String) (outcome : Except Fault Int64) :
    Work (Once Int64 × Except Fault Int64 × Once Int64) := do
  let before : Once Int64 := ((← get).onces.find? name).getD none
  let (got, _) := (before.getOrMake (Action.ofExcept outcome : Action Unit Fault Int64)).run ()
  let after := match got with
    | .ok (_, kept) => kept
    | .error _ => before
  bind Shelf.onces name after
  return (before, got.map (·.1), after)

end GuestBridge.Workspace
