import GuestBridge.BaseMember
import GuestBridge.Channel
import GuestBridge.NativeLibrary
import GuestBridge.Text.Hexadecimal

/-!
Bridges: one backend with the host types, the guest types, the accessors of the base classes and
the table of regions mapped for the guest. The operations here take guest descriptors and channels
and get the host streams out of them. A region is filed under its address and given back with the
length it was mapped with; dropping the bridge gives back every region left.
-/
namespace GuestBridge

structure BridgeOptions where
  readsAhead : Bool := true
  transmitPacketSize : UInt32 := 524288
  deriving DecidableEq

structure Bridge (state : Type) where
  backend : Backend state
  options : BridgeOptions
  pressure : CounterId
  types : ClassRegistry
  guestTypes : List GuestType := []
  members : AccessorTable := BaseMember.table
  regions : List MappedRegion := []

/-- A bridge and all that it shares with others. -/
structure Session (state : Type) where
  bridge : Bridge state
  world : World state

namespace Session

variable {state failure result : Type}

def worldPart : Focus (Session state) (World state) :=
  ⟨world, fun after session => { session with world := after }⟩

def memberPart : Focus (Session state) MemberSpace where
  get session := ⟨session.bridge.members, session.bridge.types, session.world.heap⟩
  set after session :=
    { bridge := { session.bridge with members := after.table, types := after.types }
      world := { session.world with heap := after.heap } }

def onWorld (action : Action (World state) failure result) :
    Action (Session state) failure result :=
  action.within worldPart

def onMembers (action : Action MemberSpace failure result) :
    Action (Session state) failure result :=
  action.within memberPart

def changeRegions (change : List MappedRegion → List MappedRegion) :
    Action (Session state) failure Unit :=
  modify fun session =>
    { session with bridge := { session.bridge with regions := change session.bridge.regions } }

end Session

namespace Bridge

open Session

variable {state : Type}

/-- A bridge with the base classes and nothing mapped. -/
def create (backend : Backend state) (options : BridgeOptions) (pressure : CounterId) :
    Action (World state) Fault (Bridge state) := do
  let types ← World.onHeap (BaseClass.addTo {})
  return { backend, options, pressure, types }

/-- Counts mapped memory on another counter from now on. -/
def redirectPressure (bridge : Bridge state) (pressure : CounterId) : Bridge state :=
  { bridge with pressure }

def channel (bridge : Bridge state) : Channel state :=
  ⟨bridge.backend, bridge.pressure, bridge.options.readsAhead⟩

/-- Makes a guest type known by its name, in place of one of the same name. -/
def defineGuestType (bridge : Bridge state) (type : GuestType) : Bridge state :=
  { bridge with
    guestTypes := type :: bridge.guestTypes.filter fun known => known.name != type.name }

def guestType (bridge : Bridge state) (name : String) : Except Fault GuestType :=
  match bridge.guestTypes.find? fun known => known.name == name with
  | some type => .ok type
  | none => .error (.typeNotFound name)

def loadLibrary (path : String) : Action (Session state) Fault NativeLibrary := do
  let backend := (← get).bridge.backend
  onWorld (World.onMachine ((NativeLibrary.load backend path).mapFailure .library))

/-- The stream in a descriptor. An object that wraps no stream is of the wrong kind. -/
def descriptorStream (descriptor : ObjectId) :
    Action (Session state) Fault (Option StreamId) := do
  match ← onMembers (MemberSpace.descriptorStream descriptor) with
  | none => return none
  | some wrapper =>
    let heap := (← get).world.heap
    match BaseClass.streamOf? heap wrapper with
    | some stream => return some stream
    | none => throw (.wrongValueKind BaseClass.streamName (heap.className wrapper))

/-- The socket in a descriptor. An object that wraps no socket counts as none. -/
def descriptorSocket (descriptor : ObjectId) :
    Action (Session state) Fault (Option SocketId) := do
  let wrapper ← onMembers (MemberSpace.descriptorSocket descriptor)
  return wrapper.bind (BaseClass.socketOf? (← get).world.heap)

/-- The granularity that mapping offsets must keep to. -/
def granularity : Action (Session state) Fault UInt64 := do
  let backend := (← get).bridge.backend
  onWorld (World.onMachine backend.granularity)

def position (descriptor : ObjectId) (offset : Int64) : Action (Session state) Fault IoStatus := do
  let stream ← descriptorStream descriptor
  onWorld (Channel.position stream offset)

def transfer (source : ObjectId) (position count : Int64) (destination : ObjectId) :
    Action (Session state) Fault IoStatus := do
  let sourceStream ← descriptorStream source
  let socket ← descriptorSocket destination
  let stream ← descriptorStream destination
  let channel := (← get).bridge.channel
  onWorld (channel.transfer sourceStream position count { socket, stream })

/-- Maps the file behind a channel and files the region under its address. -/
def map (channelObject : ObjectId) (protection : Int32) (position length : Int64) :
    Action (Session state) Fault UInt64 := do
  let some descriptor ← onMembers (MemberSpace.channelDescriptor channelObject)
    | throw .streamClosed
  let stream ← descriptorStream descriptor
  let channel := (← get).bridge.channel
  let region ← onWorld (channel.map stream protection position length)
  changeRegions fun regions =>
    region :: regions.filter fun known => known.address != region.address
  return region.address

/-- An address as messages show it. -/
def hexadecimal (address : UInt64) : String := "0x" ++ Text.hexDigits address.toNat

/-- Gives back the region at an address. It leaves the table before the system is asked, and goes
with its own length, whatever length the caller names. -/
def unmap (address _length : UInt64) : Action (Session state) Fault Unit := do
  let bridge := (← get).bridge
  let some region := bridge.regions.find? fun known => known.address == address
    | throw (.io ("Unmap failed. No mapping at " ++ hexadecimal address ++ ".") none)
  changeRegions fun regions => regions.filter fun known => known.address != address
  onWorld (bridge.channel.unmap region)

/-- Makes sure that written bytes are stored, and says whether they are. -/
def flush (descriptor : ObjectId) : Action (Session state) Fault Bool := do
  let some stream ← descriptorStream descriptor | throw .streamClosed
  match (← get).world.streams.file? stream with
  | some file => return (← get).world.streams.sync file
  | none => return (← onWorld (World.onStreams (Streams.flush stream).attempt)).isOk

/-- Gives back every region that is left; failures are passed over. -/
def drop (session : Session state) : World state :=
  let channel := session.bridge.channel
  session.bridge.regions.foldl (fun world region => ((channel.unmap region).run world).2)
    session.world

end Bridge

end GuestBridge
