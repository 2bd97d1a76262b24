import GuestBridge.Backend

/-!
A backend that answers from a script and moves no bytes. Each kind of call takes the next entry
written for it; without one it succeeds in a fixed way: the k-th mapping is at k times 65536, a
transfer moves everything, and libraries are the installed ones.
-/
namespace GuestBridge

open Posix

structure ScriptProfile where
  name : String
  naming : ExportNaming := .plain
  seeksBeforeTransfer : Bool := false
  granularity : Option UInt64 := none

structure Script where
  mapAnswers : List (Except SystemError UInt64) := []
  unmapAnswers : List (Except SystemError Unit) := []
  readAheadAnswers : List (Except SystemError Unit) := []
  transferAnswers : List (Except Fault IoStatus) := []
  /-- Mapping calls so far, the failed ones too. -/
  mapCalls : Nat := 0
  installed : List (String × List String) := []
  /-- Libraries loaded and not freed, by path. -/
  loaded : List (LibraryHandle × String) := []
  loads : Nat := 0

namespace Script

/-- Bytes between the addresses of two mappings. -/
def mapSpacing : Nat := 65536

/-- Numbers between the handles of two libraries. -/
def handleSpacing : Nat := 4096

/-- Bytes between the addresses of two exports of one library. -/
def exportSpacing : Nat := 16

def next {failure result : Type} (queue : Focus Script (List (Except failure result)))
    (fallback : Except failure result) : Action (Machine Script) failure result :=
  Action.make fun machine =>
    match queue.get machine.own with
    | [] => (fallback, machine)
    | answer :: rest => (answer, { machine with own := queue.set rest machine.own })

def mapQueue : Focus Script (List (Except SystemError UInt64)) :=
  ⟨mapAnswers, fun rest script => { script with mapAnswers := rest }⟩

def unmapQueue : Focus Script (List (Except SystemError Unit)) :=
  ⟨unmapAnswers, fun rest script => { script with unmapAnswers := rest }⟩

def readAheadQueue : Focus Script (List (Except SystemError Unit)) :=
  ⟨readAheadAnswers, fun rest script => { script with readAheadAnswers := rest }⟩

def transferQueue : Focus Script (List (Except Fault IoStatus)) :=
  ⟨transferAnswers, fun rest script => { script with transferAnswers := rest }⟩

def changeScript {failure : Type} (change : Script → Script) :
    Action (Machine Script) failure Unit :=
  modify fun machine => { machine with own := change machine.own }

def extend (script more : Script) : Script :=
  { script with
    mapAnswers := script.mapAnswers ++ more.mapAnswers
    unmapAnswers := script.unmapAnswers ++ more.unmapAnswers
    readAheadAnswers := script.readAheadAnswers ++ more.readAheadAnswers
    transferAnswers := script.transferAnswers ++ more.transferAnswers }

/-- Makes a library loadable, in place of one at the same path. Handles loaded before see the new
exports. -/
def install (script : Script) (path : String) (symbols : List String) : Script :=
  { script with
    installed := (path, symbols) :: script.installed.filter (·.1 != path) }

def load (profile : ScriptProfile) (path : String) :
    Action (Machine Script) LoadFault LibraryHandle := do
  let script := (← get).own
  match script.installed.lookup path with
  | none => throw (.notFound (path ++ ": no such " ++ profile.name ++ " library"))
  | some _ =>
    let handle : LibraryHandle := ⟨UInt64.ofNat (handleSpacing * (script.loads + 1))⟩
    changeScript fun script =>
      { script with loads := script.loads + 1, loaded := (handle, path) :: script.loaded }
    return handle

def symbol? (script : Script) (handle : LibraryHandle) (name : String) : Option UInt64 := do
  let path ← script.loaded.lookup handle
  let symbols ← script.installed.lookup path
  let index ← symbols.idxOf? name
  return handle.raw + UInt64.ofNat (exportSpacing * (index + 1))

end Script

namespace Backend

open Script

def scripted (profile : ScriptProfile) : Backend Script where
  name := profile.name
  naming := profile.naming
  seeksBeforeTransfer := profile.seeksBeforeTransfer
  granularity :=
    match profile.granularity with
    | some size => return size
    | none => throw .platformUnsupported
  readAhead _ _ _ := next readAheadQueue (.ok ())
  mapMemory _ _ _ _ := do
    changeScript fun script => { script with mapCalls := script.mapCalls + 1 }
    next mapQueue (.ok (UInt64.ofNat (mapSpacing * (← get).own.mapCalls)))
  unmapMemory _ _ := next unmapQueue (.ok ())
  transfer _ _ count _ := next transferQueue (.ok (.ok count))
  loadLibrary := load profile
  freeLibrary handle machine :=
    { machine with
      own := { machine.own with loaded := machine.own.loaded.filter (·.1 != handle) } }
  resolveSymbol handle name := do return (← get).own.symbol? handle name

end Backend

end GuestBridge
