import GuestBridge.Stream.Opening
import GuestBridge.Workspace

/-!
Streams, sockets and mapped regions of a workspace.
-/
namespace GuestBridge.Workspace

open Posix

def addStream (stream : Stream) : Work StreamId := do
  let (added, streams) := (← get).world.streams.add stream
  onWorld (modify fun world => { world with streams })
  return added

/-- The file stream behind a stream, if there is one. -/
def backingFile (stream : StreamId) : Work (Option StreamId) := do
  return (← get).world.streams.file? stream

def file (name : String) : Work StreamId := do
  match ← backingFile (← named Shelf.streams name) with
  | some file => return file
  | none => reject "not a file"

def openFile (path : String) (mode : FileMode) (access : FileAccess) : Work StreamId :=
  onShared (World.onStreams (Streams.openFile path mode access))

def changeSystem (change : System → System) : Work Unit :=
  onStreams (Streams.onSystem (modify change))

/-- Keeps the peer of a socket under a name. One that had the name goes. -/
def keepPeer (name : String) (socket : SocketId) : Work Unit := do
  if let some former := (← get).peers.find? name then changeSystem (·.losePeer former)
  bind Shelf.peers name socket

/-- A guest object around a new socket that is to have a name. -/
def openSocket (name : String) (connected : Bool) : Work ObjectId := do
  let (socket, system) := (← get).world.streams.system.openSocket connected
  changeSystem fun _ => system
  if connected then keepPeer name socket
  onHeap (BaseClass.wrapSocket socket)

def socket (name : String) : Work SocketId := do
  match BaseClass.socketOf? (← get).world.heap (← named Shelf.objects name) with
  | some socket => return socket
  | none => reject "not a socket"

/-- What the peer of the socket with a name receives next. -/
def receive (name : String) (count : Nat) : Work Bytes := do
  let socket ← named Shelf.peers name
  let (bytes, system) := (← get).world.streams.system.receive socket count
  changeSystem fun _ => system
  return bytes

/-- Makes a file hold this content. -/
def putFile (path : String) (content : Content) : Work Unit :=
  onStreams (do
    let handle ← Streams.openHandle path { writable := true, creates := true, truncates := true }
    Streams.onSystem (System.write handle content))

def regionContent (region : MappedRegion) : Work Content := do
  return (← get).world.streams.system.viewContent region.address

def writeRegion (region : MappedRegion) (position : Nat) (bytes : Content) : Work Unit :=
  changeSystem (·.writeView region.address position bytes)

/-- Writes one byte all over a region, unless the region cannot be written to. -/
def fillRegion (region : MappedRegion) (byte : UInt8) : Work Unit :=
  if region.mode.isWritable then
    writeRegion region 0 (.replicate region.length.toNat byte)
  else return ()

end GuestBridge.Workspace
