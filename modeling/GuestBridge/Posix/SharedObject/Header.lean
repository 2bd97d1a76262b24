import GuestBridge.Posix.SharedObject.Number

/-!
The start of a shared object: what the dynamic loader checks before it takes a file for one, field
by field, and the table of segments that the header leads to. The first field that is not as it has
to be decides.
-/
namespace GuestBridge.Posix.SharedObject

def headerSize : Nat := 64

/-- Revisions of the conventions for any system, or for this one, that the loader follows. -/
def isKnownRevision (system revision : Nat) : Bool :=
  revision == 0 || (system == 3 && revision < 4)

def cannotOpen (reason? : Option String) : String :=
  "cannot open shared object file" ++ ((reason?.map (": " ++ ·)).getD "")

def cannotRead (reason : String) : String := "cannot read file data: " ++ reason

/-- What is wrong with a file: it is for another machine and counts as missing, it is for another
class of machines, or there is a text for it. -/
inductive Defect where
  | foreign
  | otherClass
  | described (text : String)
  deriving DecidableEq

/-- A demand on the start of a file, and what a file has that does not meet it. -/
structure Check where
  holds : Bytes → Bool
  defect : Defect

/-- What sets this kind of object apart from others of its class. -/
def identity : List Check := [
  ⟨fun header => byte header 5 == 1, .described "ELF file data encoding not little-endian"⟩,
  ⟨fun header => byte header 6 == 1,
    .described "ELF file version ident does not match current one"⟩,
  ⟨fun header => byte header 7 == 0 || byte header 7 == 3,
    .described "ELF file OS ABI invalid"⟩,
  ⟨fun header => isKnownRevision (byte header 7) (byte header 8),
    .described "ELF file ABI version invalid"⟩,
  ⟨fun header => number header 9 7 == 0, .described "nonzero padding in e_ident"⟩]

def isForThisMachine (header : Bytes) : Bool := number header 18 2 == 62

def isExecutable (header : Bytes) : Bool := number header 16 2 == 2

/-! ### The table of segments -/

def tableStart (header : Bytes) : Nat := number header 32 8

def entrySize : Nat := 56

def segmentCount (header : Bytes) : Nat := number header 56 2

def tableSize (header : Bytes) : Nat := entrySize * segmentCount header

def firstRead : Nat := 832

/-- Whether the table is taken for a part of what was read first. A start so high that the end comes
round to small addresses passes too. -/
def isTableRead (header : Bytes) (size : Nat) : Bool :=
  (tableStart header + tableSize header) % addressRange ≤ min firstRead size

/-- What lies in front of the bytes that were read first: their number, behind bytes that nobody
wrote. -/
def inFront (size count : Nat) : Bytes :=
  List.replicate (count - 8) 0 ++ (bytesOf (min firstRead size) 8).drop (8 - count)

def table (file : Content) (header : Bytes) : Bytes :=
  if isTableRead header file.size && addressRange ≤ tableStart header + tableSize header then
    let count := addressRange - tableStart header
    (inFront file.size count ++ (file.take firstRead).toList).take (tableSize header)
  else (file.slice (tableStart header) (tableSize header)).toList

/-! ### Checking -/

/-- The checks of the header in order. A file for another machine is told apart before its identity
is looked at more closely. -/
def checks (size : Nat) : List Check := [
  ⟨fun header => headerSize ≤ header.length, .described "file too short"⟩,
  ⟨fun header => header.take 4 == [0x7f, 0x45, 0x4c, 0x46], .described "invalid ELF header"⟩,
  ⟨fun header => byte header 4 == 2, .otherClass⟩,
  ⟨fun header => identity.all (·.holds header) || isForThisMachine header, .foreign⟩] ++
    identity ++ [
  ⟨fun header => number header 20 4 == 1,
    .described "ELF file version does not match current one"⟩,
  ⟨isForThisMachine, .foreign⟩,
  ⟨fun header => isExecutable header || number header 16 2 == 3,
    .described "only ET_DYN and ET_EXEC can be loaded"⟩,
  ⟨fun header => number header 54 2 == entrySize,
    .described "ELF file's phentsize not the expected size"⟩,
  ⟨fun header => isTableRead header size || tableStart header + tableSize header < Nat.pow 2 63,
    .described (cannotRead "Invalid argument")⟩,
  ⟨fun header => isTableRead header size || tableSize header = 0 ||
      tableStart header + tableSize header ≤ size,
    .described "cannot read file data"⟩]

def header (file : Content) : Bytes := (file.take headerSize).toList

def defect? (file : Content) : Option Defect :=
  ((checks file.size).find? (!·.holds (header file))).map (·.defect)

end GuestBridge.Posix.SharedObject
