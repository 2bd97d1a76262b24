import GuestBridge.Action
import GuestBridge.Identity
import GuestBridge.Posix.Kernel
import GuestBridge.Posix.Parcel
import GuestBridge.Posix.Path
import GuestBridge.Posix.View

/-!
The operating system that streams and mappings rest on: files in directories, open handles with a
cursor each, connected sockets, and mapped views. A handle opened for appending writes at the end of
its file whatever its cursor says. Handles and files are never given out twice.
-/
namespace GuestBridge.Posix

structure HandleId where
  index : Nat
  deriving DecidableEq

/-- An open file: which one, where the next read or write goes, and what is allowed. -/
structure OpenFile where
  file : FileId
  cursor : Nat := 0
  readable : Bool
  writable : Bool
  appends : Bool
  deriving DecidableEq

/-- A socket: connected or not, whether its peer is still there, and what the peer has not received
yet. -/
structure Socket where
  connected : Bool
  hasPeer : Bool := true
  inTransit : List Parcel := []

structure System where
  files : Array StoredFile := #[]
  tree : Tree := {}
  handles : Array OpenFile := #[]
  sockets : Array Socket := #[]
  views : List View := []
  kernel : Kernel := .unlimited
  /-- How many calls there were that write to files or send. -/
  calls : Nat := 0

namespace System

def stored (system : System) (file : FileId) : StoredFile := (system.files[file.index]?).getD {}

def content (system : System) (file : FileId) : Content := (system.stored file).content

def changeFile (system : System) (file : FileId) (change : StoredFile → StoredFile) : System :=
  { system with files := system.files.modify file.index change }

/-- Whether something is in transit that lies on a block of a file. -/
def isInTransit (system : System) (file : FileId) (block : PageBlock) : Bool :=
  system.sockets.any fun socket => socket.inTransit.any (·.uses file block)

/-- Gives the file a size. That takes from its views what they have behind it, and leaves to its
parcels what they had on pages that go. -/
def resizeFile (system : System) (file : FileId) (size : Nat) : System :=
  let before := system.stored file
  let after := before.resize (system.isInTransit file) size
  let release (parcel : Parcel) := parcel.release file before after.memoryEnd
  { system.changeFile file (fun _ => after) with
    views := system.views.map fun view => if view.file = file then view.cut size else view
    sockets := system.sockets.map fun socket =>
      { socket with inTransit := socket.inTransit.flatMap release } }

def contentAt? (system : System) (path : String) : Option Content :=
  match system.tree.find path .look with
  | .ok (.file file) => some (system.content file)
  | _ => none

def create (system : System) (directory : DirectoryId) (name : String) : FileId × System :=
  let file : FileId := ⟨system.files.size⟩
  (file, { system with
    files := system.files.push {}
    tree := system.tree.add directory name (.file file) })

structure OpenFlags where
  readable : Bool := false
  writable : Bool := false
  appends : Bool := false
  truncates : Bool := false
  creates : Bool := false
  mustCreate : Bool := false
  deriving DecidableEq

def OpenFlags.purpose (flags : OpenFlags) : Purpose :=
  if flags.mustCreate then .createNew else if flags.creates then .create else .look

def OpenFlags.allowedBy (flags : OpenFlags) (stored : StoredFile) : Bool :=
  (!flags.readable || stored.readable) && (!(flags.writable || flags.truncates) || stored.writable)

def openHandle (system : System) (flags : OpenFlags) (file : FileId) : HandleId × System :=
  (⟨system.handles.size⟩,
    { system with
      handles := system.handles.push
        { file
          readable := flags.readable
          writable := flags.writable
          appends := flags.appends } })

/-- Opens a directory. What is in hand then takes a page and is neither read nor written. -/
def openDirectory (system : System) (flags : OpenFlags) : HandleId × System :=
  let held : StoredFile := { content := .zeros pageSize, isDirectory := true }
  openHandle { system with files := system.files.push held } flags ⟨system.files.size⟩

/-- Opens what a path leads to, a directory for reading only. Whoever creates a file may use it in
any way. Nothing has changed if it fails. -/
def openFile (path : String) (flags : OpenFlags) : Action System SystemError HandleId := do
  let system ← get
  match ← system.tree.find path flags.purpose with
  | .directory directory =>
    if flags.mustCreate then throw .fileExists
    if flags.writable || flags.creates || flags.truncates then throw .isADirectory
    if !(system.tree.directory directory).readable then throw .accessDenied
    let (handle, after) := system.openDirectory flags
    set after
    return handle
  | .file file =>
    if flags.mustCreate then throw .fileExists
    if !flags.allowedBy (system.stored file) then throw .accessDenied
    let emptied := if flags.truncates then system.resizeFile file 0 else system
    let (handle, after) := emptied.openHandle flags file
    set after
    return handle
  | .missing directory name =>
    if flags.purpose = .look then throw .noSuchFile
    if !(system.tree.directory directory).writable then throw .accessDenied
    let (file, created) := system.create directory name
    let (handle, after) := created.openHandle flags file
    set after
    return handle

def lookHandle (handle : HandleId) : Action System SystemError OpenFile := do
  match (← get).handles[handle.index]? with
  | some opened => return opened
  | none => throw .badDescriptor

def setCursor (system : System) (handle : HandleId) (cursor : Nat) : System :=
  { system with
    handles := system.handles.modify handle.index fun opened => { opened with cursor } }

def position (handle : HandleId) : Action System SystemError Nat := do
  return (← lookHandle handle).cursor

/-- Moves the cursor. A place beyond the end of the file is fine. -/
def seek (handle : HandleId) (target : Nat) : Action System SystemError Nat := do
  let _ ← lookHandle handle
  if positionLimit ≤ target then throw .invalidArgument
  (← get).kernel.seeks target
  modify (·.setCursor handle target)
  return target

def read (handle : HandleId) (count : Nat) : Action System SystemError Bytes := do
  let opened ← lookHandle handle
  if !opened.readable then throw .badDescriptor
  if ((← get).stored opened.file).isDirectory then throw .isADirectory
  let bytes := ((← get).content opened.file).slice opened.cursor count
  modify (·.setCursor handle (opened.cursor + bytes.size))
  return bytes.toList

def writeStart (system : System) (opened : OpenFile) : Nat :=
  if opened.appends then (system.content opened.file).size else opened.cursor

/-- Puts bytes into a file, and the cursor of a handle behind them. -/
def put (system : System) (handle : HandleId) (file : FileId) (start : Nat) (bytes : Content) :
    System :=
  (system.changeFile file (·.write start bytes)).setCursor handle (start + bytes.size)

def called (system : System) : System := { system with calls := system.calls + 1 }

/-- One call to write, at the cursor or at the end for an appending handle. Answers how many of the
bytes were written. -/
def writeSome (handle : HandleId) (bytes : Content) : Action System SystemError Nat := do
  let opened ← lookHandle handle
  if !opened.writable then throw .badDescriptor
  let system ← get
  let start := system.writeStart opened
  modify called
  let taken ← system.kernel.writes system.calls start bytes.size
  if 0 < taken then modify (·.put handle opened.file start (bytes.take taken))
  return taken

def nothingWritten : SystemError := .described .writeZero "failed to write whole buffer"

/-- Writes all bytes, with one call after the other for what the calls before have left. What these
have written stays if a later one fails. No more calls are made than a number. -/
def writeAll (handle : HandleId) : Nat → Content → Action System SystemError Unit
  | 0, _ => return ()
  | calls + 1, bytes => do
    if bytes.isEmpty then return ()
    let taken ← writeSome handle bytes
    if taken = 0 then throw nothingWritten
    writeAll handle calls (bytes.drop taken)

/-- Writes all bytes. Every call takes at least one of them. -/
def write (handle : HandleId) (bytes : Content) : Action System SystemError Unit :=
  writeAll handle bytes.size bytes

def size (handle : HandleId) : Action System SystemError Nat := do
  let opened ← lookHandle handle
  return ((← get).content opened.file).size

/-- Cuts the file off or fills it up with zeros; cursors stay where they are. -/
def setSize (handle : HandleId) (size : Nat) : Action System SystemError Unit := do
  let opened ← lookHandle handle
  if positionLimit ≤ size then
    throw (.described .invalidInput "number too large to fit in target type")
  if !opened.writable then throw .invalidArgument
  (← get).kernel.resizes size
  modify (·.resizeFile opened.file size)

/-- Where a kernel transfer goes. -/
inductive TransferTarget where
  | socket (socket : SocketId)
  | file (handle : HandleId)
  deriving DecidableEq

/-- The cursor that the bytes of a file are sent to, if it is a later place in the same file. -/
def laterCursor? (system : System) (file : FileId) (position : Nat) : TransferTarget → Option Nat
  | .socket _ => none
  | .file destination => do
    let written ← system.handles[destination.index]?
    if written.file = file ∧ position < written.cursor then some written.cursor else none

def hasPeer (system : System) (socket : SocketId) : Bool :=
  match system.sockets[socket.index]? with
  | some known => known.hasPeer
  | none => false

/-- What there is to send of a file from a position on, at most as many bytes as asked. What is sent
to a later place in the file itself comes round again. -/
def outgoing (system : System) (file : FileId) (position count : Nat) (target : TransferTarget) :
    Content :=
  match system.laterCursor? file position target with
  | some cursor => (system.content file).circulating position cursor count
  | none => (system.content file).slice position count

/-- Hands bytes of a file to a target: they are written at its cursor, or are in transit to the peer
of a socket from then on. -/
def deliver (system : System) (file : FileId) (position : Nat) (bytes : Content) :
    TransferTarget → System
  | .file handle =>
    match system.handles[handle.index]? with
    | some written => system.put handle written.file written.cursor bytes
    | none => system
  | .socket socket =>
    { system with
      sockets := system.sockets.modify socket.index fun known =>
        { known with inTransit := known.inTransit ++ [.shared file position bytes.size] } }

/-- Sends bytes of a file from a position on to the cursor of a file or to a socket. The source's
cursor stays where it is. Answers how many were sent. -/
def sendFile (target : TransferTarget) (source : HandleId) (position count : Nat) :
    Action System SystemError Nat := do
  let opened ← lookHandle source
  if !opened.readable then throw .badDescriptor
  let system ← get
  system.kernel.asks position count
  let destination? ←
    match target with
    | .file destination => some <$> lookHandle destination
    | .socket _ => pure none
  if destination?.any (!·.writable) then throw .badDescriptor
  system.kernel.begins position count
  if destination?.any (·.appends) || (system.stored opened.file).isDirectory then
    throw .invalidArgument
  let bytes := system.outgoing opened.file position count target
  if bytes.isEmpty then return 0
  if let .socket socket := target then
    if !system.hasPeer socket then throw .brokenPipe
  modify called
  let sent ← system.kernel.sends system.calls position bytes.size (destination?.map (·.cursor))
  if 0 < sent then modify (·.deliver opened.file position (bytes.take sent) target)
  return sent

def openSocket (system : System) (connected : Bool) : SocketId × System :=
  (⟨system.sockets.size⟩, { system with sockets := system.sockets.push { connected } })

def isConnected (system : System) (socket : SocketId) : Bool :=
  match system.sockets[socket.index]? with
  | some known => known.connected
  | none => false

def closeSocket (system : System) (socket : SocketId) : System :=
  { system with
    sockets := system.sockets.modify socket.index fun known => { known with connected := false } }

/-- The peer of a socket goes, with all that it has not received. -/
def losePeer (system : System) (socket : SocketId) : System :=
  { system with
    sockets := system.sockets.modify socket.index fun known =>
      { known with hasPeer := false, inTransit := [] } }

/-- What the peer of a socket receives next. -/
def receive (system : System) (socket : SocketId) (count : Nat) : Bytes × System :=
  match system.sockets[socket.index]? with
  | some known =>
    ((Parcel.takeAll count known.inTransit).flatMap fun parcel =>
        (parcel.content system.stored).toList,
      { system with
        sockets := system.sockets.setIfInBounds socket.index
          { known with inTransit := Parcel.dropAll count known.inTransit } })
  | none => ([], system)

end System

end GuestBridge.Posix
