import GuestBridge.Posix.SharedObject.Dynamic

/-!
Finding symbols by their names. An object has a plain table, or a quick one that can tell for most
names that they are not there. Both sort names into chains by a number made from the name, and a
chain answers the indices of the symbols that may have the name.
-/
namespace GuestBridge.Posix.SharedObject

/-- The number that the plain table sorts by, and by which versions are told apart. -/
def plainNumber (name : Bytes) : Nat :=
  name.foldl (fun before byte =>
    let next := before * 16 + byte.toNat
    (next ^^^ next / Nat.pow 2 28 % 16 * 16) % Nat.pow 2 28) 0

def quickNumber (name : Bytes) : Nat :=
  name.foldl (fun before byte => (before * 33 + byte.toNat) % Nat.pow 2 32) 5381

structure NameTable where
  chains : Nat
  candidates : (name : Bytes) → List Nat

namespace NameTable

/-- The indices of a chain in a plain table. Each has the next one beside it, and zero ends them. -/
def plainChain (image : Image) (links : Nat) : Nat → Nat → List Nat
  | 0, _ => []
  | fuel + 1, index =>
    if index = 0 then []
    else index :: plainChain image links fuel (image.numberAt (links + 4 * index) 4)

def plain (image : Image) (address : Nat) : NameTable where
  chains := image.numberAt address 4
  candidates name :=
    let chains := image.numberAt address 4
    let heads := address + 8
    plainChain image (heads + 4 * chains) (image.content.size + 1)
      (image.numberAt (heads + 4 * (plainNumber name % chains)) 4)

/-- The indices of a chain in a quick table that have the number of a name. An odd number ends the
chain, and the lowest bit counts for nothing else. -/
def quickChain (image : Image) (wanted numbers : Nat) : Nat → Nat → List Nat
  | 0, _ => []
  | fuel + 1, index =>
    let found := image.numberAt (numbers + 4 * index) 4
    let rest := if found % 2 = 1 then [] else quickChain image wanted numbers fuel (index + 1)
    if found / 2 = wanted / 2 then index :: rest else rest

def quick (image : Image) (address : Nat) : NameTable where
  chains := image.numberAt address 4
  candidates name :=
    let chains := image.numberAt address 4
    let firstIndex := image.numberAt (address + 4) 4
    let words := image.numberAt (address + 8) 4
    let shift := image.numberAt (address + 12) 4 % 32
    let wanted := quickNumber name
    let mask := image.numberAt (address + 16 + 8 * (wanted / 64 % words)) 8
    let heads := address + 16 + 8 * words
    let first := image.numberAt (heads + 4 * (wanted % chains)) 4
    if hasFlag mask (wanted % 64) && hasFlag mask (wanted / Nat.pow 2 shift % 64) && first != 0 then
      quickChain image wanted (heads + 4 * chains + addressRange - 4 * firstIndex)
        (image.content.size + 1) first
    else []

/-- The table of an object, the quick one if there are both. One without chains is none. -/
def ofDynamic? (image : Image) (dynamic : Dynamic) : Option NameTable :=
  let found :=
    ((dynamic.value? Tag.quickTable).map (quick image)).or
      ((dynamic.value? Tag.plainTable).map (plain image))
  found.filter (·.chains != 0)

end NameTable

end GuestBridge.Posix.SharedObject
