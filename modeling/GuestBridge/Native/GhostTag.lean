import GuestBridge.Native.Channel

/-!
The native functions of ghost tags. Guest types come by name and are looked up among the types
that the bridge knows; tags go to the store that all bridges share. Also the registry of all
native functions.
-/
namespace GuestBridge.Native

variable {state : Type}

/-- The guest type named by a string argument. -/
def typeArgument (arguments : Arguments) (index : Nat) (function : String) :
    Action (Session state) Fault GuestType := do
  let name ← arguments.text index function
  (← get).bridge.guestType name

def setTag : NativeHandler state := fun values => do
  let arguments ← readArguments values
  let object ← arguments.object 0 "setTag"
  let type ← typeArgument arguments 1 "setTag"
  modify fun session =>
    let world := session.world
    { session with world := { world with tags := world.tags.setTag world.heap object type } }
  return .null

def getTag : NativeHandler state := fun values => do
  let arguments ← readArguments values
  let object ← arguments.object 0 "getTag"
  let world := (← get).world
  Session.onWorld (World.onHeap
    (BaseClass.textValue ((world.tags.tag? world.heap object).map GuestType.name)))

def isGhostArrayInstance : NativeHandler state := fun values => do
  let arguments ← readArguments values
  let type ← typeArgument arguments 1 "isGhostArrayInstance"
  let rank ← arguments.rank 2
  match ← arguments.object? 0 with
  | none => return .boolean false
  | some object =>
    let world := (← get).world
    return .boolean (world.tags.isArrayInstance world.heap object type rank)

def castGhostArray : NativeHandler state := fun values => do
  let arguments ← readArguments values
  let type ← typeArgument arguments 1 "castGhostArray"
  let rank ← arguments.rank 2
  let object ← arguments.object? 0
  let world := (← get).world
  world.tags.castArray world.heap object type rank
  return .null

def throwClassCastException : NativeHandler state := fun values => do
  let arguments ← readArguments values
  let object ← arguments.object 0 "throwClassCastException"
  let type ← typeArgument arguments 1 "throwClassCastException"
  let rank ← arguments.rank 2
  throw (TagStore.castFault ((← get).world.heap.className object) type rank)

def ghostTagFunctions : List (String × NativeHandler state) := [
  ("corvid.runtime.GhostTag.setTag", setTag),
  ("corvid.runtime.GhostTag.getTag", getTag),
  ("corvid.runtime.GhostTag.isGhostArrayInstance", isGhostArrayInstance),
  ("corvid.runtime.GhostTag.castGhostArray", castGhostArray),
  ("corvid.runtime.GhostTag.throwClassCastException", throwClassCastException)]

/-- The registry of all native functions. -/
def standard : NativeRegistry state :=
  .ofHandlers (channelFunctions ++ ghostTagFunctions)

end GuestBridge.Native
