import GuestBridge.Stream

/-!
Opening files as streams: how an existing or a missing file is treated, and with which access.
Creating or truncating needs write access, and appending allows no reading. A failed opening
changes nothing.
-/
namespace GuestBridge

open Posix

inductive FileMode where
  | createNew
  | create
  | openExisting
  | openOrCreate
  | truncateExisting
  | append
  deriving DecidableEq

inductive FileAccess where
  | read
  | write
  | readWrite
  deriving DecidableEq

namespace FileAccess

def canRead : FileAccess → Bool
  | read | readWrite => true
  | write => false

def canWrite : FileAccess → Bool
  | write | readWrite => true
  | read => false

end FileAccess

namespace FileMode

def flags (mode : FileMode) (access : FileAccess) : System.OpenFlags :=
  let plain : System.OpenFlags := { readable := access.canRead, writable := access.canWrite }
  match mode with
  | createNew => { plain with mustCreate := true }
  | create => { plain with creates := true, truncates := true }
  | openExisting => plain
  | openOrCreate => { plain with creates := true }
  | truncateExisting => { plain with truncates := true }
  | append => { plain with creates := true, appends := true }

end FileMode

/-- Why a file cannot be asked for in this way, whatever the system would say. -/
def openingFault? (path : String) (flags : System.OpenFlags) : Option SystemError :=
  if '\x00' ∈ path.toList then
    some (.described .invalidInput "file name contained an unexpected NUL byte")
  else if (flags.creates || flags.mustCreate || flags.truncates) && !flags.writable then
    some (.described .invalidInput
      "creating or truncating a file requires write or append access")
  else none

namespace Streams

def openHandle (path : String) (flags : System.OpenFlags) :
    Action Streams SystemError HandleId := do
  if let some fault := openingFault? path flags then throw fault
  onSystem (System.openFile path flags)

/-- Opens a file as a stream. -/
def openFile (path : String) (mode : FileMode) (access : FileAccess) :
    Action Streams Fault StreamId := do
  if mode = .append ∧ access.canRead then
    throw (.io "Append access can be requested only in write-only mode." none)
  let handle ← (openHandle path (mode.flags access)).mapFailure fun cause =>
    .io (path ++ " (" ++ cause.message ++ ")") (some cause)
  let (stream, after) :=
    (← get).add (.file { path, appends := mode == .append, handle := some handle })
  set after
  return stream

end Streams

end GuestBridge
