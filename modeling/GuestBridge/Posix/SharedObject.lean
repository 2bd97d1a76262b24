import GuestBridge.Posix.SharedObject.Placement
import GuestBridge.Posix.SharedObject.Relocation
import GuestBridge.Posix.SharedObject.Resolver
import GuestBridge.Posix.SharedObject.Symbol
import GuestBridge.Posix.SharedObject.Version

/-!
Shared objects in files, as the dynamic loader takes them into memory. The start of the file is
looked at first (`defect?`), then the segments, then the dynamic section, and the first thing that
is not as it has to be decides.
-/
namespace GuestBridge.Posix

/-- A shared object in memory: where its file goes, the entries of its dynamic section, the memory
that threads have of their own for it, and what is sealed once it is ready. -/
structure SharedObject where
  loads : List SharedObject.Segment := []
  dynamic : SharedObject.Dynamic := []
  ofThreads? : Option SharedObject.Segment := none
  sealed? : Option SharedObject.Segment := none
  deriving DecidableEq

namespace SharedObject

/-- A library that an object depends on. A filtee takes the place of the object for whoever looks
for symbols in it, and an optional one may be missing. -/
structure Dependency where
  name : Bytes
  isFiltee : Bool
  isOptional : Bool
  deriving DecidableEq

/-- The object in a file with a proper start, or what is wrong with it. -/
def read (file : Content) : Except String SharedObject := do
  let segments := segments file
  let loads := segments.filter (·.isLoaded)
  if loads.any (!·.isAligned) then throw misaligned
  match loads with
  | [] => throw "object file has no loadable segments"
  | first :: later =>
    if isExecutable (header file) then throw "cannot dynamically load executable"
    let some address := dynamicAddress? segments | throw "object file has no dynamic section"
    if let some fault := placingFault first later then throw fault
    let dynamic := Dynamic.ofImage ⟨loads, file⟩ (file.size / 16 + 1) address
    if let some fault := dynamic.fault? then throw fault
    return {
      loads
      dynamic
      ofThreads? := (segments.filter fun segment =>
        segment.isOfThreads && segment.memorySize != 0).getLast?
      sealed? := (segments.filter (·.isSealed)).getLast? }

variable (object : SharedObject) (file : Content)

def image : Image := ⟨object.loads, file⟩

def text (position : Nat) : Bytes :=
  (object.image file).textAt (object.dynamic.value Tag.texts + position)

def ownName? : Option Bytes := (object.dynamic.value? Tag.ownName).map (object.text file)

def dependencies : List Dependency :=
  let dependency (entry : Entry) (isFiltee isOptional : Bool) : Dependency :=
    { name := object.text file entry.value, isFiltee, isOptional }
  object.dynamic.filterMap fun entry =>
    if entry.tag = Tag.needed then some (dependency entry false false)
    else if entry.tag = Tag.filtee then some (dependency entry true false)
    else if entry.tag = Tag.auxiliary then some (dependency entry true true)
    else none

def needsC : Bool :=
  (object.dynamic.values Tag.needed).any fun position =>
    "libc.so.".toUTF8.toList.isPrefixOf (object.text file position)

def sealingFault? : Option String :=
  match object.loads, object.sealed? with
  | first :: later, some segment => sealingFault first (later.getLastD first) segment
  | _, _ => none

/-- What a symbol stands for that has its address from code, if the code answers a fixed number. -/
def answerOf? (symbol : Symbol) : Option Nat :=
  if symbol.isAnswered then
    fixedAnswer? ((object.image file).bytesAt (symbol.value % addressRange) longestCode)
  else none

def symbol (index : Nat) : Symbol :=
  .ofBytes ((object.image file).bytesAt
    ((object.dynamic.value Tag.symbols + Symbol.rowSize * index) % addressRange) Symbol.rowSize)

/-- The index of a symbol's version, with the bit that hides it. -/
def versionMark? (index : Nat) : Option Nat :=
  (object.dynamic.value? Tag.symbolVersions).map fun address =>
    (object.image file).numberAt (address + 2 * index) 2

def neededVersions : List NeededVersion :=
  match object.dynamic.value? Tag.neededVersions with
  | some address =>
    Version.needed (object.image file) (object.dynamic.value Tag.texts) (file.size + 1) address
  | none => []

/-- The form of the first record of needed versions. -/
def neededForm? : Option Nat :=
  (object.dynamic.value? Tag.neededVersions).map ((object.image file).numberAt · 2)

def definedVersions : Option (List DefinedVersion) :=
  (object.dynamic.value? Tag.definedVersions).map fun address =>
    Version.defined (object.image file) (object.dynamic.value Tag.texts) (file.size + 1) address

def relocations : List Relocation := Relocation.all (object.image file) object.dynamic

def named (name : Bytes) : List (Nat × Symbol) :=
  match NameTable.ofDynamic? (object.image file) object.dynamic with
  | some names =>
    ((names.candidates name).map fun index => (index, object.symbol file index)).filter
      fun (_, symbol) => object.text file symbol.name = name
  | none => []

end SharedObject

end GuestBridge.Posix
