import GuestBridge.Backend

/-!
A backend that keeps the list of calls made to it, in order, and otherwise answers as the backend
inside it. A call that takes something to be given back later, a mapping or a library, is kept with
what it got.
-/
namespace GuestBridge

open Posix

inductive BackendCall where
  | granularity
  | readAhead (handle : HandleId) (offset length : UInt64)
  | map (handle : HandleId) (mode : MapMode) (offset length : UInt64) (address : Option UInt64)
  | unmap (address length : UInt64)
  | transfer (source : HandleId) (position count : UInt64) (target : System.TransferTarget)
  | load (path : String) (handle : Option LibraryHandle)
  | free (handle : LibraryHandle)
  | resolve (handle : LibraryHandle) (name : String)
  deriving DecidableEq

/-- A backend's state together with the calls so far. -/
structure Recording (state : Type) where
  own : state
  calls : List BackendCall := []

namespace Backend

variable {state failure result : Type}

def withoutCalls : Focus (Machine (Recording state)) (Machine state) where
  get machine := ⟨machine.own.own, machine.system⟩
  set after machine := ⟨{ machine.own with own := after.own }, after.system⟩

def note (call : BackendCall) (machine : Machine (Recording state)) : Machine (Recording state) :=
  { machine with own := { machine.own with calls := machine.own.calls ++ [call] } }

/-- Makes the call and writes it down with its outcome. -/
def noting (call : Except failure result → BackendCall)
    (action : Action (Machine state) failure result) :
    Action (Machine (Recording state)) failure result :=
  Action.make fun machine =>
    let (outcome, after) := (action.within withoutCalls).run machine
    (outcome, note (call outcome) after)

def recorded (backend : Backend state) : Backend (Recording state) where
  name := backend.name
  naming := backend.naming
  seeksBeforeTransfer := backend.seeksBeforeTransfer
  granularity := noting (fun _ => .granularity) backend.granularity
  readAhead handle offset length :=
    noting (fun _ => .readAhead handle offset length) (backend.readAhead handle offset length)
  mapMemory handle mode offset length :=
    noting (fun outcome => .map handle mode offset length outcome.toOption)
      (backend.mapMemory handle mode offset length)
  unmapMemory address length :=
    noting (fun _ => .unmap address length) (backend.unmapMemory address length)
  transfer source position count target :=
    noting (fun _ => .transfer source position count target)
      (backend.transfer source position count target)
  loadLibrary path := noting (fun outcome => .load path outcome.toOption) (backend.loadLibrary path)
  freeLibrary handle machine :=
    let noted := note (.free handle) machine
    withoutCalls.set (backend.freeLibrary handle (withoutCalls.get noted)) noted
  resolveSymbol handle name machine :=
    let noted := note (.resolve handle name) machine
    let after := backend.resolveSymbol handle name (withoutCalls.get noted)
    (after.1, withoutCalls.set after.2 noted)

end Backend

end GuestBridge
