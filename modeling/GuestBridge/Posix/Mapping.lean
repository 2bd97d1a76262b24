import GuestBridge.Posix.System

/-!
Mapping files into memory. A view takes the highest free place in the address space that is large
enough; the place is free again once the view is given back.
-/
namespace GuestBridge.Posix

namespace AddressSpace

def lowest : Nat := 0x10000

def size : Nat := 0x7ffffffff000

/-- The first address above all places for views. -/
def top : Nat := 0x7ffff7000000

/-- Where the program itself lies: its first address and its size. -/
def program : Nat × Nat := (0x555555554000, 0x1000000)

/-- The highest place for that many bytes below an address. What is taken comes as first addresses
with sizes, from the top down. -/
def freeBelow (length : Nat) : Nat → List (Nat × Nat) → Option Nat
  | limit, [] => if lowest + length ≤ limit then some (limit - length) else none
  | limit, (start, size) :: rest =>
    if start + size + length ≤ limit then some (limit - length) else freeBelow length start rest

def taken (views : List View) : List (Nat × Nat) :=
  (program :: views.map fun view => (view.address.toNat, roundToPages view.length)).mergeSort
    fun left right => right.1 ≤ left.1

def place? (views : List View) (length : Nat) : Option Nat := freeBelow length top (taken views)

end AddressSpace

namespace System

/-- Pages that a copy-on-write view might take for itself have to fit into this much memory. -/
def memorySize : Nat := Nat.pow 2 39

def view? (system : System) (address : UInt64) : Option View :=
  system.views.find? (·.address == address)

def mapFile (handle : HandleId) (mode : MapMode) (offset length : Nat) :
    Action System SystemError UInt64 := do
  let opened ← lookHandle handle
  if offset % pageSize ≠ 0 ∨ length = 0 then throw .invalidArgument
  let system ← get
  let some place := AddressSpace.place? system.views (roundToPages length) | throw .outOfMemory
  if positionLimit ≤ offset + roundToPages length then throw .valueTooLarge
  if !opened.readable || (mode == .readWrite && !opened.writable) then throw .accessDenied
  if (system.stored opened.file).isDirectory then throw .cannotBeMapped
  if mode = .copyOnWrite ∧ memorySize < length then throw .outOfMemory
  let address := UInt64.ofNat place
  set { system with
    views := { address, file := opened.file, offset, length, mode } :: system.views }
  return address

/-- Gives a view back. An address without a view is no failure; one off a page boundary is, and so
is a place outside the address space. -/
def unmapFile (address : UInt64) (length : Nat) : Action System SystemError Unit := do
  if address.toNat % pageSize ≠ 0 ∨ length = 0 then throw .invalidArgument
  if AddressSpace.size < address.toNat + length then throw .invalidArgument
  modify fun system => { system with views := system.views.filter (·.address != address) }

def viewContent (system : System) (address : UInt64) : Content :=
  match system.view? address with
  | some view => view.content (system.stored view.file)
  | none => {}

/-- Writes through a view. What lies beyond its length is dropped. -/
def writeView (system : System) (address : UInt64) (position : Nat) (bytes : Content) : System :=
  match system.view? address with
  | none => system
  | some view =>
    let inside := bytes.take (view.length - position)
    match view.mode with
    | .copyOnWrite =>
      let updated := view.write (system.stored view.file) position inside
      { system with
        views := system.views.map fun known => if known.address = address then updated else known }
    | _ => system.changeFile view.file (·.poke (view.offset + position) inside)

end System

end GuestBridge.Posix
