import GuestBridge.Backend.Unix
import GuestBridge.Posix.Loader.Opening

/-!
The dynamic loader of an installed system, for the backend on it.
-/
namespace GuestBridge.Backend

open Posix

/-- The handle of an object. No object has the handle zero. -/
def handleOf (id : LoadedId) : LibraryHandle := ⟨UInt64.ofNat (id.index + 1)⟩

def objectOf (handle : LibraryHandle) : LoadedId := ⟨handle.raw.toNat - 1⟩

/-- Handles that stand for all that the program itself sees. -/
def wholeProgram : List LibraryHandle := [⟨0⟩, ⟨0xffffffffffffffff⟩]

def systemLoader : LibraryLoader Loader where
  load system path := handleOf <$> Loader.load system path
  free handle loader := loader.close (objectOf handle)
  symbol system handle name := do
    let object := if handle ∈ wholeProgram then Loader.program else objectOf handle
    let address ← Loader.symbolIn system ((← get).scope object) name.toUTF8.toList
    return address.map UInt64.ofNat

end GuestBridge.Backend
