import GuestBridge.Heap
import GuestBridge.Posix.System

/-!
Host streams: files, in-memory pipes, and devices whose answers are given from outside. Streams
are shared by identity. A closed file or pipe transfers nothing; a pipe has no position. A device
may stand before a file, which then serves transfers and mappings; its own position and closing
are apart from the file's.
-/
namespace GuestBridge

open Posix

/-- A file stream holds its handle until it is closed. -/
structure FileStream where
  path : String
  appends : Bool
  handle : Option HandleId
  deriving DecidableEq

/-- Bytes written and not read yet, first in first out. -/
structure Pipe where
  buffer : Bytes := []
  closed : Bool := false
  deriving DecidableEq

structure Device where
  canSeek : Bool
  closed : Bool := false
  position : Except SystemError UInt64 := .ok 0
  seek : UInt64 → Except SystemError UInt64 := .ok
  flush : Except SystemError Unit := .ok ()
  backing : Option StreamId := none

inductive Stream where
  | file (file : FileStream)
  | pipe (pipe : Pipe)
  | device (device : Device)

namespace Stream

def closedFault : SystemError := .described .notConnected "Stream closed."

def isClosed : Stream → Bool
  | file known => known.handle.isNone
  | pipe known => known.closed
  | device known => known.closed

def canSeek : Stream → Bool
  | file known => known.handle.isSome
  | pipe _ => false
  | device known => known.canSeek

/-- What is left of a stream after closing it. -/
def close : Stream → Stream
  | file known => file { known with handle := none }
  | pipe _ => pipe { buffer := [], closed := true }
  | device known => device { known with closed := true }

end Stream

/-- All streams, and the operating system under the file streams. -/
structure Streams where
  system : System := {}
  table : Array Stream := #[]

namespace Streams

def onSystem {failure result : Type} (action : Action System failure result) :
    Action Streams failure result :=
  action.within ⟨system, fun after streams => { streams with system := after }⟩

/-- A stream that was never opened reads as a closed pipe. -/
def stream (streams : Streams) (stream : StreamId) : Stream :=
  streams.table[stream.index]?.getD (.pipe { closed := true })

def setStream (streams : Streams) (stream : StreamId) (updated : Stream) : Streams :=
  { streams with table := streams.table.setIfInBounds stream.index updated }

def add (streams : Streams) (stream : Stream) : StreamId × Streams :=
  (⟨streams.table.size⟩, { streams with table := streams.table.push stream })

def isClosed (streams : Streams) (stream : StreamId) : Bool := (streams.stream stream).isClosed

def canSeek (streams : Streams) (stream : StreamId) : Bool := (streams.stream stream).canSeek

/-- The file stream that serves a stream's transfers and mappings: itself, or the one a device
stands before. -/
def file? (streams : Streams) (stream : StreamId) : Option StreamId :=
  match streams.stream stream with
  | .file _ => some stream
  | .pipe _ => none
  | .device known => known.backing

/-- The handle of an open file stream. -/
def handle (streams : Streams) (file : StreamId) : Except SystemError HandleId :=
  match streams.stream file with
  | .file { handle := some handle, .. } => .ok handle
  | _ => .error Stream.closedFault

def position (stream : StreamId) : Action Streams SystemError UInt64 := do
  match (← get).stream stream with
  | .file _ => return .ofNat (← onSystem (System.position (← (← get).handle stream)))
  | .pipe _ => throw (.described .unsupported "pipe has no position")
  | .device known => known.position

def seek (stream : StreamId) (target : UInt64) : Action Streams SystemError UInt64 := do
  match (← get).stream stream with
  | .file _ => return .ofNat (← onSystem (System.seek (← (← get).handle stream) target.toNat))
  | .pipe _ => throw (.described .unsupported "pipe is not seekable")
  | .device known => known.seek target

/-- Reads once into a buffer and answers how many bytes that were, with the buffer as it is then. -/
def readInto (stream : StreamId) (buffer : Bytes) : Action Streams SystemError (Nat × Bytes) := do
  match (← get).stream stream with
  | .file _ =>
    let bytes ← onSystem (System.read (← (← get).handle stream) buffer.length)
    return (bytes.length, buffer.fill bytes)
  | .pipe known =>
    if known.closed then throw Stream.closedFault
    let count := min buffer.length known.buffer.length
    modify (·.setStream stream (.pipe { known with buffer := known.buffer.drop count }))
    return (count, buffer.fill (known.buffer.take count))
  | .device _ => return (0, buffer)

/-- The bytes of one read with room for so many. -/
def read (stream : StreamId) (count : Nat) : Action Streams SystemError Bytes := do
  let (filled, buffer) ← readInto stream (List.replicate count 0)
  return buffer.take filled

/-- Writes all the bytes and answers how many they are. -/
def write (stream : StreamId) (bytes : Bytes) : Action Streams SystemError Nat := do
  match (← get).stream stream with
  | .file _ => onSystem (System.write (← (← get).handle stream) (.ofList bytes))
  | .pipe known =>
    if known.closed then throw Stream.closedFault
    modify (·.setStream stream (.pipe { known with buffer := known.buffer ++ bytes }))
  | .device _ => pure ()
  return bytes.length

/-- A pipe has nothing to flush and always succeeds. -/
def flush (stream : StreamId) : Action Streams SystemError Unit := do
  match (← get).stream stream with
  | .file _ => let _ ← (← get).handle stream
  | .pipe _ => return ()
  | .device known => known.flush

def close (streams : Streams) (stream : StreamId) : Streams :=
  streams.setStream stream (streams.stream stream).close

/-- Bytes waiting in a pipe; other streams have no such count. -/
def available? (streams : Streams) (stream : StreamId) : Option Nat :=
  match streams.stream stream with
  | .pipe known => some known.buffer.length
  | _ => none

def fileSize (file : StreamId) : Action Streams SystemError Nat := do
  onSystem (System.size (← (← get).handle file))

def setFileSize (file : StreamId) (size : Nat) : Action Streams SystemError Unit := do
  onSystem (System.setSize (← (← get).handle file) size)

/-- Whether the file's bytes are safely stored now; a closed stream answers no. -/
def sync (streams : Streams) (file : StreamId) : Bool := (streams.handle file).isOk

end Streams

end GuestBridge
