import GuestBridge.World

/-!
File channel operations on host streams: position, kernel transfers and mappings. Outcomes that a
guest expects are statuses; only real failures are faults. Mapped memory counts as pressure on the
channel's counter from a successful mapping to the unmapping, which takes it off even if the
system reports a failure.
-/
namespace GuestBridge

open Posix

/-- A file view handed to the guest. -/
structure MappedRegion where
  address : UInt64
  length : UInt64
  mode : MapMode
  deriving DecidableEq

/-- Where a transfer goes: what the destination descriptor holds. -/
structure Destination where
  socket : Option SocketId := none
  stream : Option StreamId := none

structure Channel (state : Type) where
  backend : Backend state
  pressure : CounterId
  readsAhead : Bool

namespace Channel

variable {state : Type}

def mappingFailed : String := "File mapping failed."

def transferFailed : String := "Transfer failed."

/-- What a failed stream call means to the guest: a status, or a fault with this text. -/
def streamStatus (cause : SystemError) (text : String) : Except Fault IoStatus :=
  match cause.condition with
  | .unexpectedEndOfFile => .ok .endOfFile
  | .unsupported => .ok .unsupported
  | .notConnected => .ok .unavailable
  | _ => .error (.io text (some cause))

def openStream (streams : Streams) (stream : Option StreamId) : Except Fault StreamId :=
  match stream with
  | some stream => if streams.isClosed stream then .error .streamClosed else .ok stream
  | none => .error .streamClosed

/-- Seeks to an offset that is not negative; with a negative one, asks for the position. -/
def position (stream : Option StreamId) (offset : Int64) : Action (World state) Fault IoStatus := do
  let streams := (← get).streams
  let stream ← openStream streams stream
  if 0 ≤ offset ∧ !streams.canSeek stream then return .unsupported
  let outcome ← World.onStreams
    (if 0 ≤ offset then Streams.seek stream offset.toUInt64 else Streams.position stream).attempt
  match outcome with
  | .ok position => return .ok position
  | .error cause => streamStatus cause "Position failed."

/-- The handle that a transfer writes to. A socket always goes before the stream, also one that
cannot be written to. -/
def target? (streams : Streams) (destination : Destination) : Option System.TransferTarget :=
  match destination.socket with
  | some socket => if streams.system.isConnected socket then some (.socket socket) else none
  | none =>
    match (destination.stream.bind streams.file?).map streams.handle with
    | some (.ok handle) => some (.file handle)
    | _ => none

/-- Moves the source's cursor to where the transfer starts, unless it is there. Answers a status
if that ends the transfer. -/
def seekSource (source : StreamId) (position : UInt64) :
    Action (World state) Fault (Option IoStatus) := do
  match ← World.onStreams (Streams.position source).attempt with
  | .error cause => return some (← streamStatus cause transferFailed)
  | .ok current =>
    if current = position then return none
    if !(← get).streams.canSeek source then return some .unsupported
    match ← World.onStreams (Streams.seek source position).attempt with
    | .error cause => return some (← streamStatus cause transferFailed)
    | .ok _ => return none

/-- Copies bytes of a file from a position on to the destination, with the system's help. With
nothing to copy the destination is not looked at. -/
def transfer (channel : Channel state) (source : Option StreamId) (position count : Int64)
    (destination : Destination) : Action (World state) Fault IoStatus := do
  let streams := (← get).streams
  let source ← openStream streams source
  let some file := streams.file? source
    | throw (.io "Transfer failed. Cannot transfer from non-file stream." none)
  if position < 0 ∨ count < 0 then throw (.io transferFailed none)
  if count = 0 then return .ok 0
  let some target := target? streams destination | return .unsupportedCase
  match streams.handle file with
  | .error cause => streamStatus cause transferFailed
  | .ok handle =>
    if channel.backend.seeksBeforeTransfer then
      if let some status ← seekSource source position.toUInt64 then return status
    World.onMachine
      (channel.backend.transfer handle position.toUInt64 count.toUInt64 target)

def mapFault (cause : SystemError) : Fault :=
  match cause.condition with
  | .outOfMemory => .outOfMemory mappingFailed
  | .unsupported => .platformUnsupported
  | _ => .io mappingFailed (some cause)

/-- Maps bytes of a file stream and counts them as pressure. -/
def mapFile (channel : Channel state) (file : StreamId) (mode : MapMode)
    (offset length : UInt64) : Action (World state) Fault MappedRegion := do
  let handle ← Action.ofExcept (((← get).streams.handle file).mapError fun _ => .streamClosed)
  if channel.readsAhead then
    World.onMachine ((channel.backend.readAhead handle offset length).mapFailure fun cause =>
      .io mappingFailed (some cause))
  let address ← World.onMachine
    ((channel.backend.mapMemory handle mode offset length).mapFailure mapFault)
  World.changeCounters (·.add channel.pressure length)
  return ⟨address, length, mode⟩

def map (channel : Channel state) (stream : Option StreamId) (protection : Int32)
    (position length : Int64) : Action (World state) Fault MappedRegion := do
  let streams := (← get).streams
  let stream ← openStream streams stream
  let some file := streams.file? stream | throw (.io "Map not supported." none)
  let some mode := MapMode.ofCode? protection | throw (.invalidMapMode protection)
  if position < 0 ∨ length < 0 then throw (.io mappingFailed none)
  channel.mapFile file mode position.toUInt64 length.toUInt64

def unmapFault (cause : SystemError) : Fault :=
  match cause.condition with
  | .unsupported => .platformUnsupported
  | _ => .io "Unmap failed." (some cause)

def unmap (channel : Channel state) (region : MappedRegion) : Action (World state) Fault Unit := do
  let outcome ← World.onMachine
    (channel.backend.unmapMemory region.address region.length).attempt
  World.changeCounters (·.remove channel.pressure region.length)
  Action.ofExcept (outcome.mapError unmapFault)

end Channel

end GuestBridge
