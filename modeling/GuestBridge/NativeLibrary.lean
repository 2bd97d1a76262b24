import GuestBridge.Backend
import GuestBridge.Text.Quoted

/-!
Native libraries behind guest methods: loading, looking up exports and freeing. Under the naming
with argument sizes, the spelling `_name@size` is tried before the plain name; a name too long for
it is not looked up at all. A library is freed once.
-/
namespace GuestBridge

/-- An export to look up: its name and the size of its arguments. -/
structure ExportRequest where
  name : String
  argumentBytes : UInt32
  deriving DecidableEq

namespace ExportRequest

/-- The longest name, in bytes, that the spelling with the argument size is made for. -/
def longestName : Nat := 501

def sized (request : ExportRequest) : String :=
  "_" ++ request.name ++ "@" ++ toString request.argumentBytes.toNat

end ExportRequest

structure NativeLibrary where
  handle : LibraryHandle
  path : String
  freed : Bool := false
  deriving DecidableEq

namespace NativeLibrary

variable {state : Type}

def load (backend : Backend state) (path : String) :
    Action (Machine state) LoadFault NativeLibrary := do
  let handle ← backend.loadLibrary path
  return { handle, path }

/-- Loads the library in a file. Names of files are bytes, and one that is not text is not asked
for. -/
def loadNamed (backend : Backend state) (name : Bytes) :
    Action (Machine state) LoadFault NativeLibrary :=
  match String.fromUTF8? ⟨name.toArray⟩ with
  | some path => load backend path
  | none => throw (.invalidPath (Text.quotedName name))

def exportAt (backend : Backend state) (handle : LibraryHandle) (request : ExportRequest) :
    StateM (Machine state) (Option UInt64) :=
  match backend.naming with
  | .plain => backend.resolveSymbol handle request.name
  | .sizedArguments =>
    if ExportRequest.longestName < request.name.utf8ByteSize then return none
    else do
      match ← backend.resolveSymbol handle request.sized with
      | some address => return some address
      | none => backend.resolveSymbol handle request.name

def export? (library : NativeLibrary) (backend : Backend state) (request : ExportRequest) :
    StateM (Machine state) (Option UInt64) :=
  exportAt backend library.handle request

def requireExport (library : NativeLibrary) (backend : Backend state)
    (request : ExportRequest) : Action (Machine state) LoadFault UInt64 := do
  match ← Action.ofState (library.export? backend request) with
  | some address => return address
  | none => throw (.symbolNotFound request.name library.path)

/-- Frees the library unless that was done before. -/
def free (library : NativeLibrary) (backend : Backend state) :
    StateM (Machine state) NativeLibrary := do
  if library.freed then return library
  modify (backend.freeLibrary library.handle)
  return { library with freed := true }

end NativeLibrary

end GuestBridge
