import GuestBridge.Backend.Unsupported
import GuestBridge.Workspace

/-!
Bridges of a workspace. Opening a bridge under a name gives it a fresh pressure counter and, on a
scripted backend, a script of its own. A bridge that is dropped gives back its regions and loses
its name; its script goes on answering to the name until another scripted bridge takes it. A
library is freed when it is asked for or when its name is given to another.
-/
namespace GuestBridge.Workspace

variable {result : Type}

def scriptPart (index : Nat) : Focus Platforms (Recording Script) where
  get platforms := platforms.scripts[index]?.getD ⟨{}, []⟩
  set after platforms :=
    { platforms with scripts := platforms.scripts.setIfInBounds index after }

def unix : Backend Platforms :=
  (Backend.unix Backend.systemLoader).within
    ⟨Platforms.loader, fun after platforms => { platforms with loader := after }⟩

def changeScripts (change : Array (Recording Script) → Array (Recording Script)) : Work Unit :=
  onWorld (modify fun world =>
    { world with backends := { world.backends with scripts := change world.backends.scripts } })

def setBridge (workspace : Workspace) (index : Nat) (bridge : Bridge Platforms) : Workspace :=
  { workspace with
    bridges := workspace.bridges.modify index fun known => { known with bridge } }

/-- The bridge of a name, and its position among all bridges that were ever opened. -/
def findBridge (name : String) : Work (Nat × OpenBridge) := do
  let index ← named Shelf.bridgeNames name
  match (← get).bridges[index]? with
  | some known => return (index, known)
  | none => reject "unknown bridge"

def openedBridge (name : String) : Work OpenBridge := do return (← findBridge name).2

def onBridge (name : String) (action : Action (Session Platforms) Fault result) : Work result := do
  let (index, known) ← findBridge name
  (action.mapFailure .fault).within {
    get := fun whole => ⟨known.bridge, whole.world⟩
    set := fun after whole =>
      { whole.setBridge index after.bridge with world := after.world } }

def channelOf (name : String) : Work (Channel Platforms) := do
  return (← openedBridge name).bridge.channel

/-- A scripted backend whose state is added to the workspace. -/
def newScripted (profile : ScriptProfile) : Work (Platform × Backend Platforms) := do
  let index := (← get).world.backends.scripts.size
  changeScripts (·.push ⟨{}, []⟩)
  return (.scripted index, (Backend.scripted profile).recorded.within (scriptPart index))

def newCounter : Work CounterId := do
  let (counter, counters) := (← get).world.counters.make
  onWorld (modify fun world => { world with counters })
  return counter

def heldMemory (counter : CounterId) : Work UInt64 := do
  return (← get).world.counters.current counter

/-- Drops a bridge and answers what its pressure counter holds afterwards. -/
def dropBridge (name : String) : Work UInt64 := do
  let (index, known) ← findBridge name
  modify fun whole =>
    { whole.setBridge index { known.bridge with regions := [] } with
      world := Bridge.drop ⟨known.bridge, whole.world⟩ }
  forget Shelf.bridgeNames name
  heldMemory known.bridge.pressure

/-- Opens a bridge under a name. One that had the name before is dropped. -/
def openBridge (name : String) (platform : Platform) (backend : Backend Platforms)
    (options : BridgeOptions) : Work (Bridge Platforms) := do
  if let .scripted index := platform then bind Shelf.scripts name ⟨index, backend⟩
  if ((← get).bridgeNames.find? name).isSome then let _ ← dropBridge name
  let pressure ← newCounter
  let bridge ← onShared (Bridge.create backend options pressure)
  bind Shelf.bridgeNames name (← get).bridges.size
  modify fun whole => { whole with bridges := whole.bridges.push ⟨name, platform, bridge⟩ }
  return bridge

def changeScript (name : String) (change : Script → Script) : Work Unit := do
  let known ← named Shelf.scripts name
  changeScripts fun scripts =>
    scripts.modify known.index fun script => { script with own := change script.own }

def loadLibrary (bridge path : String) : Work OpenLibrary := do
  let known ← openedBridge bridge
  return ⟨← onBridge bridge (Bridge.loadLibrary path), known.bridge.backend, known.platform⟩

/-- Loads a library directly on the backend of a bridge. -/
def loadNamed (bridge : String) (name : Bytes) : Work OpenLibrary := do
  let known ← openedBridge bridge
  let library ← onMachine (NativeLibrary.loadNamed known.bridge.backend name)
  return ⟨library, known.bridge.backend, known.platform⟩

/-- Frees a library, whose name then stands for nothing. -/
def freeLibrary (name : String) : Work Unit := do
  let opened ← named Shelf.libraries name
  let _ ← onMachine (Action.ofState (opened.library.free opened.backend))
  forget Shelf.libraries name

/-- Names a library. One that had the name before is freed. -/
def nameLibrary (name : String) (opened : OpenLibrary) : Work Unit := do
  if ((← get).libraries.find? name).isSome then freeLibrary name
  bind Shelf.libraries name opened

/-- Frees a library by its handle, on the script that answers to a name or else on the backend of
the bridge. -/
def freeHandle (name : String) (handle : LibraryHandle) : Work Unit := do
  let backend ←
    match (← get).scripts.find? name with
    | some known => pure known.backend
    | none => pure (← openedBridge name).bridge.backend
  onMachine (modify (backend.freeLibrary handle))

/-- The calls of the scripts since the last time they were taken, script by script in order of their
names. A script is not listened to once its name is another's. -/
def takeCalls : StateM Workspace (List BackendCall) := do
  let workspace ← get
  let ordered := workspace.scripts.entries.mergeSort fun left right =>
    !decide (right.1 < left.1)
  let recorded := ordered.flatMap fun (_, known) =>
    ((scriptPart known.index).get workspace.world.backends).calls
  let emptied := workspace.world.backends.scripts.map fun known => { known with calls := [] }
  set { workspace with
    world := { workspace.world with
      backends := { workspace.world.backends with scripts := emptied } } }
  return recorded

end GuestBridge.Workspace
