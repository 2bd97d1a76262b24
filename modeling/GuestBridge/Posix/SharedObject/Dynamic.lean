import GuestBridge.Posix.SharedObject.Image

/-!
The dynamic section of a shared object: entries with a tag and a value each, up to one with tag
zero. Of two entries with one tag the later counts, but for names of needed libraries, which all
count.
-/
namespace GuestBridge.Posix.SharedObject

structure Entry where
  tag : Nat
  value : Nat
  deriving DecidableEq

abbrev Dynamic : Type := List Entry

namespace Dynamic

def ofImage (image : Image) : Nat → Nat → Dynamic
  | 0, _ => []
  | fuel + 1, address =>
    let tag := image.numberAt address 8
    if tag = 0 then []
    else ⟨tag, image.numberAt (address + 8) 8⟩ :: ofImage image fuel (address + 16)

def value? (dynamic : Dynamic) (tag : Nat) : Option Nat :=
  (dynamic.reverse.find? (·.tag == tag)).map (·.value)

def value (dynamic : Dynamic) (tag : Nat) : Nat := (dynamic.value? tag).getD 0

def values (dynamic : Dynamic) (tag : Nat) : List Nat :=
  (dynamic.filter (·.tag == tag)).map (·.value)

end Dynamic

/-! ### Tags -/

namespace Tag

/-- Names of needed libraries, of libraries that take the place of the object, which it can be able
to do without, of the object itself, and of directories to look for the others. -/
def needed : Nat := 1

def filtee : Nat := 0x7fffffff

def auxiliary : Nat := 0x7ffffffd

def ownName : Nat := 14

def searchPath : Nat := 15

def runPath : Nat := 29

/-- Tables of texts and symbols, and the two kinds of tables to find symbols by. -/
def texts : Nat := 5

def symbols : Nat := 6

def plainTable : Nat := 4

def quickTable : Nat := 0x6ffffef5

/-- Tables of relocations and their sizes in bytes; how many at the start look up no symbol. -/
def relocations : Nat := 7

def relocationsSize : Nat := 8

def relativeCount : Nat := 0x6ffffff9

def callRelocations : Nat := 23

def callRelocationsSize : Nat := 2

def callRelocationsKind : Nat := 20

def shortRelocations : Nat := 36

/-- Versions of symbols, versions that are defined and versions that are needed. -/
def symbolVersions : Nat := 0x6ffffff0

def definedVersions : Nat := 0x6ffffffc

def neededVersions : Nat := 0x6ffffffe

/-- Flags, older and newer, and the tag for what has become the second of the older ones. -/
def olderFlags : Nat := 30

def flags : Nat := 0x6ffffffb

def ownFirst : Nat := 16

end Tag

def hasFlag (flags bit : Nat) : Bool := flags / Nat.pow 2 bit % 2 == 1

namespace Dynamic

def fault? (dynamic : Dynamic) : Option String :=
  let flags := dynamic.value Tag.flags
  if hasFlag flags 27 then some "cannot dynamically load position-independent executable"
  else if hasFlag flags 6 then some "shared object cannot be dlopen()ed"
  else none

/-- Whether what the object needs is not looked for among the system's libraries. -/
def avoidsSystem (dynamic : Dynamic) : Bool := hasFlag (dynamic.value Tag.flags) 11

/-- Whether the object is never taken out of memory. -/
def stays (dynamic : Dynamic) : Bool := hasFlag (dynamic.value Tag.flags) 3

/-- Whether the object looks up its own symbols in itself first. -/
def looksInItselfFirst (dynamic : Dynamic) : Bool :=
  (dynamic.value? Tag.ownFirst).isSome || hasFlag (dynamic.value Tag.olderFlags) 1

end Dynamic

end GuestBridge.Posix.SharedObject
