import GuestBridge.Posix.SharedObject.Dynamic

/-!
Relocations: places in a loaded object that get the address of a symbol. Only what they look up is
of interest here, and whether the loader knows what is to be done.
-/
namespace GuestBridge.Posix.SharedObject

structure Relocation where
  kind : Nat
  symbol : Nat
  deriving DecidableEq

namespace Relocation

def rowSize : Nat := 24

/-- Kinds that look up no symbol. -/
def withoutSymbol : List Nat := [0, 8, 38]

def withSymbol : List Nat := [1, 2, 5, 6, 7, 10, 16, 17, 18, 32, 33, 36, 37]

/-- Kinds for places to call and for memory of threads. The symbol has to be in a section. -/
def forCalls : List Nat := [7, 16, 17, 18, 36]

def looksUp (relocation : Relocation) : Bool := !withoutSymbol.contains relocation.kind

def isForCalls (relocation : Relocation) : Bool := forCalls.contains relocation.kind

/-- Whether the memory that threads have for the symbol needs a fixed place, and whether the object
could do without. -/
inductive ThreadUse where
  | none
  | desired
  | required
  deriving DecidableEq

def threadUse (relocation : Relocation) : ThreadUse :=
  if relocation.kind = 18 then .required else if relocation.kind = 36 then .desired else .none

/-- A kind as messages show it: two digits, or all eight if it takes more. -/
def shownKind (kind : Nat) : String :=
  let digits := if kind < 256 then 2 else 8
  String.ofList
    ((List.range digits).reverse.map fun place => Nat.digitChar (kind / Nat.pow 16 place % 16))

def fault? (relocation : Relocation) : Option String :=
  if withSymbol.contains relocation.kind || !relocation.looksUp then none
  else some ("unexpected reloc type 0x" ++ shownKind relocation.kind)

def ofImage (image : Image) (address : Nat) : Relocation where
  kind := image.numberAt (address + 8) 4
  symbol := image.numberAt (address + 12) 4

def rows (image : Image) (address size : Nat) : List Relocation :=
  let count := min ((size + rowSize - 1) / rowSize) (image.content.size / rowSize + 1)
  (List.range count).map fun index => ofImage image (address + rowSize * index)

/-- The relocations of an object in order, without those at the start that look up nothing. Those
for calls come last, also where the other table includes them. -/
def all (image : Image) (dynamic : Dynamic) : List Relocation :=
  let address := dynamic.value Tag.relocations
  let size := if address = 0 then 0 else dynamic.value Tag.relocationsSize
  let calls := dynamic.value Tag.callRelocations
  let callsSize :=
    if (dynamic.value? Tag.callRelocationsKind).isSome then dynamic.value Tag.callRelocationsSize
    else 0
  let apart := if address + size = calls + callsSize then size - callsSize else size
  (rows image address apart).drop (dynamic.value Tag.relativeCount) ++ rows image calls callsSize

end Relocation

end GuestBridge.Posix.SharedObject
