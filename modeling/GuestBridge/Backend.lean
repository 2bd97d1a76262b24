import GuestBridge.Fault
import GuestBridge.IoStatus
import GuestBridge.Posix.Mapping

/-!
Backends: everything that depends on the operating system, as one record of operations over the
backend's own state and the system. Mapping and advice report system failures, which their callers
turn into faults; the granularity and transfers report faults at once.
-/
namespace GuestBridge

open Posix

structure LibraryHandle where
  raw : UInt64
  deriving DecidableEq

/-- How libraries spell their exports: as they are, or in the 32-bit form with the size of the
arguments, plain names being the second choice. -/
inductive ExportNaming where
  | plain
  | sizedArguments
  deriving DecidableEq

structure Machine (state : Type) where
  own : state
  system : System

structure Backend (state : Type) where
  name : String
  naming : ExportNaming := .plain
  /-- Whether a transfer starts at the source's cursor, so that the caller has to seek first. -/
  seeksBeforeTransfer : Bool := false
  granularity : Action (Machine state) Fault UInt64
  readAhead : HandleId → (offset length : UInt64) → Action (Machine state) SystemError Unit
  mapMemory : HandleId → MapMode → (offset length : UInt64) →
    Action (Machine state) SystemError UInt64
  unmapMemory : (address length : UInt64) → Action (Machine state) SystemError Unit
  transfer : (source : HandleId) → (position count : UInt64) → System.TransferTarget →
    Action (Machine state) Fault IoStatus
  loadLibrary : (path : String) → Action (Machine state) LoadFault LibraryHandle
  freeLibrary : LibraryHandle → Machine state → Machine state
  resolveSymbol : LibraryHandle → (name : String) → StateM (Machine state) (Option UInt64)

namespace Backend

variable {state whole : Type}

def within (focus : Focus whole state) (backend : Backend state) : Backend whole :=
  let inner : Focus (Machine whole) (Machine state) :=
    { get := fun machine => ⟨focus.get machine.own, machine.system⟩
      set := fun after machine => ⟨focus.set after.own machine.own, after.system⟩ }
  { name := backend.name
    naming := backend.naming
    seeksBeforeTransfer := backend.seeksBeforeTransfer
    granularity := backend.granularity.within inner
    readAhead := fun handle offset length => (backend.readAhead handle offset length).within inner
    mapMemory := fun handle mode offset length =>
      (backend.mapMemory handle mode offset length).within inner
    unmapMemory := fun address length => (backend.unmapMemory address length).within inner
    transfer := fun source position count target =>
      (backend.transfer source position count target).within inner
    loadLibrary := fun path => (backend.loadLibrary path).within inner
    freeLibrary := fun handle machine =>
      inner.set (backend.freeLibrary handle (inner.get machine)) machine
    resolveSymbol := fun handle name machine =>
      let after := backend.resolveSymbol handle name (inner.get machine)
      (after.1, inner.set after.2 machine) }

end Backend

end GuestBridge
