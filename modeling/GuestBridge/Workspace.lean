import GuestBridge.Backend.Recorded
import GuestBridge.Backend.Scripted
import GuestBridge.Backend.SystemLoader
import GuestBridge.Heap.Reclaim
import GuestBridge.Native
import GuestBridge.Workspace.Bindings

/-!
Workspaces: a world together with the names given to the things in it, for working on bridges from
outside. Whatever has a name is held, with all that it refers to; other objects and classes live as
long as something held refers to them. A request that names nothing known is rejected, and like
every other failure it keeps what was done before it.
-/
namespace GuestBridge

/-- The states of the backends: one for each scripted backend, and one for the system's own. -/
structure Platforms where
  scripts : Array (Recording Script) := #[]
  loader : Posix.Loader := .initial

/-- What a bridge of a workspace runs on; a scripted backend has a state of its own. -/
inductive Platform where
  | scripted (index : Nat)
  | unsupported
  | unix
  deriving DecidableEq

def Platform.isScripted : Platform → Bool
  | scripted _ => true
  | unsupported | unix => false

structure OpenBridge where
  name : String
  platform : Platform
  bridge : Bridge Platforms

/-- A scripted backend that answers to a name, also without a bridge. -/
structure OpenScript where
  index : Nat
  backend : Backend Platforms

/-- A class registry of its own, or that of a bridge. -/
inductive RegistryRef where
  | own (index : Nat)
  | ofBridge (index : Nat)
  deriving DecidableEq

/-- Accessors, with the registry that their members are looked up in. -/
structure BoundTable where
  accessors : AccessorTable
  registry : RegistryRef

structure OpenLibrary where
  library : NativeLibrary
  backend : Backend Platforms
  platform : Platform

structure Workspace where
  world : World Platforms :=
    { streams := { system := Posix.Installation.system }
      backends := {} }
  bridges : Array OpenBridge := #[]
  registries : Array ClassRegistry := #[]
  objects : Bindings ObjectId := {}
  classes : Bindings HostClass := {}
  fields : Bindings BoundField := {}
  cells : Bindings Cell := {}
  registryNames : Bindings RegistryRef := {}
  tables : Bindings BoundTable := {}
  bases : Bindings BoundTable := {}
  onces : Bindings (Once Int64) := {}
  types : Bindings GuestType := {}
  stores : Bindings TagStore := {}
  streams : Bindings StreamId := {}
  /-- The peers of connected sockets, each under the name that its socket was given. -/
  peers : Bindings SocketId := {}
  regions : Bindings MappedRegion := {}
  counters : Bindings CounterId := {}
  natives : Bindings (NativeRegistry Platforms) := {}
  linked : Bindings (LinkedNatives Platforms) := {}
  libraries : Bindings OpenLibrary := {}
  bridgeNames : Bindings Nat := {}
  scripts : Bindings OpenScript := {}

/-- Why a request comes to nothing: a failure of the bridge, of library loading or of a stream, or
a request that cannot be understood. -/
inductive RequestFailure where
  | fault (fault : Fault)
  | load (fault : LoadFault)
  | system (fault : SystemError)
  | rejected (text : String)
  deriving DecidableEq

namespace Workspace

/-- The names of one sort of things. -/
abbrev Shelf (content : Type) : Type := Focus Workspace (Bindings content)

namespace Shelf

def objects : Shelf ObjectId :=
  ⟨Workspace.objects, fun after whole => { whole with objects := after }⟩

def classes : Shelf HostClass :=
  ⟨Workspace.classes, fun after whole => { whole with classes := after }⟩

def fields : Shelf BoundField :=
  ⟨Workspace.fields, fun after whole => { whole with fields := after }⟩

def cells : Shelf Cell :=
  ⟨Workspace.cells, fun after whole => { whole with cells := after }⟩

def registryNames : Shelf RegistryRef :=
  ⟨Workspace.registryNames, fun after whole => { whole with registryNames := after }⟩

def tables : Shelf BoundTable :=
  ⟨Workspace.tables, fun after whole => { whole with tables := after }⟩

def bases : Shelf BoundTable :=
  ⟨Workspace.bases, fun after whole => { whole with bases := after }⟩

def onces : Shelf (Once Int64) :=
  ⟨Workspace.onces, fun after whole => { whole with onces := after }⟩

def types : Shelf GuestType :=
  ⟨Workspace.types, fun after whole => { whole with types := after }⟩

def stores : Shelf TagStore :=
  ⟨Workspace.stores, fun after whole => { whole with stores := after }⟩

def streams : Shelf StreamId :=
  ⟨Workspace.streams, fun after whole => { whole with streams := after }⟩

def peers : Shelf SocketId :=
  ⟨Workspace.peers, fun after whole => { whole with peers := after }⟩

def regions : Shelf MappedRegion :=
  ⟨Workspace.regions, fun after whole => { whole with regions := after }⟩

def counters : Shelf CounterId :=
  ⟨Workspace.counters, fun after whole => { whole with counters := after }⟩

def natives : Shelf (NativeRegistry Platforms) :=
  ⟨Workspace.natives, fun after whole => { whole with natives := after }⟩

def linked : Shelf (LinkedNatives Platforms) :=
  ⟨Workspace.linked, fun after whole => { whole with linked := after }⟩

def libraries : Shelf OpenLibrary :=
  ⟨Workspace.libraries, fun after whole => { whole with libraries := after }⟩

def bridgeNames : Shelf Nat :=
  ⟨Workspace.bridgeNames, fun after whole => { whole with bridgeNames := after }⟩

def scripts : Shelf OpenScript :=
  ⟨Workspace.scripts, fun after whole => { whole with scripts := after }⟩

end Shelf

/-- Work on a workspace. -/
abbrev Work (result : Type) : Type := Action Workspace RequestFailure result

variable {content result : Type}

def reject (text : String) : Work result := throw (.rejected text)

/-- What a name stands for. -/
def named (shelf : Shelf content) (name : String) : Work content := do
  match (shelf.get (← get)).find? name with
  | some known => return known
  | none => reject ("unknown name " ++ name)

def bind (shelf : Shelf content) (name : String) (known : content) : Work Unit :=
  modify fun whole => shelf.set ((shelf.get whole).bind name known) whole

def forget (shelf : Shelf content) (name : String) : Work Unit :=
  modify fun whole => shelf.set ((shelf.get whole).forget name) whole

def worldPart : Focus Workspace (World Platforms) :=
  ⟨world, fun after whole => { whole with world := after }⟩

def onWorld (action : Action (World Platforms) RequestFailure result) : Work result :=
  action.within worldPart

def onShared (action : Action (World Platforms) Fault result) : Work result :=
  onWorld (action.mapFailure .fault)

def onHeap (action : Action Heap Fault result) : Work result := onShared (World.onHeap action)

def onStreams (action : Action Streams SystemError result) : Work result :=
  onWorld ((World.onStreams action).mapFailure .system)

def onMachine (action : Action (Machine Platforms) LoadFault result) : Work result :=
  onWorld ((World.onMachine action).mapFailure .load)

/-- An outcome that concerns the workspace no further. -/
def settle (outcome : Except Fault result) : Work result :=
  Action.ofExcept (outcome.mapError .fault)

def registry (workspace : Workspace) : RegistryRef → ClassRegistry
  | .own index => workspace.registries[index]?.getD {}
  | .ofBridge index =>
    match workspace.bridges[index]? with
    | some known => known.bridge.types
    | none => {}

/-- The classes that an accessor table and its registry hold. -/
def tableClasses (workspace : Workspace) (table : BoundTable) : List ClassLayout :=
  table.accessors.layouts ++ (workspace.registry table.registry).layouts

/-- The classes that a bridge holds. -/
def bridgeClasses (workspace : Workspace) (index : Nat) : List ClassLayout :=
  match workspace.bridges[index]? with
  | some known => known.bridge.types.layouts ++ known.bridge.members.layouts
  | none => []

/-- What the things with names hold. -/
def roots (workspace : Workspace) : Heap.Roots where
  objects :=
    workspace.objects.contents ++
      workspace.cells.contents.filterMap (fun cell => cell.content.object?) ++
      workspace.natives.contents.flatMap NativeRegistry.keeps ++
      workspace.linked.contents.flatMap LinkedNatives.keeps
  classes :=
    workspace.classes.contents.map HostClass.layout ++
      workspace.fields.contents.map (·.declaring.layout) ++
      workspace.registryNames.contents.flatMap (fun known => (workspace.registry known).layouts) ++
      (workspace.tables.contents ++ workspace.bases.contents).flatMap workspace.tableClasses ++
      workspace.bridgeNames.contents.flatMap workspace.bridgeClasses

/-- Lets go of the objects and classes that nothing holds. -/
def reclaim : Work Unit := do
  let held := (← get).roots
  onHeap (modify (·.reclaim held))

end Workspace

end GuestBridge
