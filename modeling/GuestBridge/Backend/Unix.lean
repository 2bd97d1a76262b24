import GuestBridge.Backend

/-!
The backend on the operating system itself: mapped views, kernel transfers and a dynamic loader.
Offsets must fit the system's signed file positions. One transfer moves a bounded number of bytes;
a caller that wants more asks again.
-/
namespace GuestBridge

open Posix

/-- A dynamic loader. It reads the files of the system and changes a state of its own. Paths and
names come to it without a NUL in them. -/
structure LibraryLoader (state : Type) where
  load : System → (path : String) → Action state String LibraryHandle
  free : LibraryHandle → state → state
  /-- What a name stands for in a library, which can be the address zero. -/
  symbol : System → LibraryHandle → (name : String) → StateM state (Option UInt64)

def LibraryLoader.empty : LibraryLoader Unit where
  load _ _ := throw "cannot open shared object file: No such file or directory"
  free _ _ := ()
  symbol _ _ _ := return none

namespace Backend

def filePosition (value : UInt64) : Except SystemError Nat :=
  if value.toNat < positionLimit then .ok value.toNat
  else .error (.described .invalidInput "offset out of range")

/-- The most bytes that one transfer call moves. -/
def largestTransfer : UInt64 := 0x7ffff000

def transferFailure (cause : SystemError) : Except Fault IoStatus :=
  if cause.number? = some 11 then .ok .unavailable
  else if cause.number? = some 22 then .ok .unsupportedCase
  else if cause.number? = some 4 then .ok .interrupted
  else .error (.io "Transfer failed." (some cause))

def onSystem {state failure result : Type} (action : Action System failure result) :
    Action (Machine state) failure result :=
  action.within ⟨Machine.system, fun after machine => { machine with system := after }⟩

def onLoader {state failure result : Type} (action : System → Action state failure result) :
    Action (Machine state) failure result :=
  Action.make fun machine =>
    let after := (action machine.system).run machine.own
    (after.1, { machine with own := after.2 })

def openLibrary {state : Type} (loader : LibraryLoader state) (path : String) :
    Action (Machine state) LoadFault LibraryHandle := do
  if '\x00' ∈ path.toList then
    let before := String.ofList (path.toList.takeWhile (· ≠ '\x00'))
    throw (.platform ("Invalid path: nul byte found in provided data at position: " ++
      toString before.utf8ByteSize))
  onLoader fun system => (loader.load system path).mapFailure fun text =>
    .notFound (path ++ ": " ++ text)

def unix {state : Type} (loader : LibraryLoader state) : Backend state where
  name := "unix"
  granularity := return UInt64.ofNat pageSize
  readAhead handle offset length := do
    let _ ← filePosition offset
    let _ ← filePosition length
    let _ ← onSystem (System.lookHandle handle)
  mapMemory handle mode offset length := do
    let offset ← filePosition offset
    onSystem (System.mapFile handle mode offset length.toNat)
  unmapMemory address length := onSystem (System.unmapFile address length.toNat)
  transfer source position count target := do
    let position ← Action.ofExcept ((filePosition position).mapError fun cause =>
      .io "Transfer failed." (some cause))
    let wanted := if count ≤ largestTransfer then count else largestTransfer
    match ← (onSystem (System.sendFile target source position wanted.toNat)).attempt with
    | .error cause => transferFailure cause
    | .ok sent =>
      if sent = 0 ∧ 0 < count then return .endOfFile
      return .ok (UInt64.ofNat sent)
  loadLibrary := openLibrary loader
  freeLibrary handle machine := { machine with own := loader.free handle machine.own }
  resolveSymbol handle name machine :=
    if '\x00' ∈ name.toList then (none, machine)
    else
      let (address, own) := (loader.symbol machine.system handle name).run machine.own
      (address.filter (· ≠ 0), { machine with own })

end Backend

end GuestBridge
