import GuestBridge.Posix.SharedObject.Segment

/-!
Putting the segments of a shared object into memory, and what goes wrong with it: no place for all
of them in a row, gaps and overlaps, or no memory for what is to be zero.
-/
namespace GuestBridge.Posix.SharedObject

def reachable : Nat := Nat.pow 2 47

/-- What a program may write to without sharing it has to fit into this. -/
def writableLimit : Nat := Nat.pow 2 39

/-- Whether a place in memory can be had for so many bytes of the file from an offset on. -/
def canMap (writable : Bool) (offset length : Nat) : Bool :=
  length != 0 && roundToPages length < reachable && offset + roundToPages length < Nat.pow 2 63 &&
    (!writable || length ≤ writableLimit)

def spread (first last : Segment) : Nat := distance first.start last.memoryEnd

/-- Addresses that may be free above what has been reserved. -/
def roomAbove : Nat := Nat.pow 2 40

/-- The strictest alignment that counts. Only powers of two do. -/
def strictest (loads : List Segment) : Nat :=
  (loads.map fun segment =>
    if segment.alignment = Nat.pow 2 segment.alignment.log2 then segment.alignment
    else 0).foldl max 0

def reserve (alignment length : Nat) : Nat :=
  if alignment ≤ pageSize then length
  else if alignment ≤ length then length + alignment
  else 2 * alignment

def hasHoles : List Segment → Bool
  | earlier :: later :: rest => earlier.pagesEnd != later.start || hasHoles (later :: rest)
  | _ => false

def misaligned : String := "ELF load command address/offset not page-aligned"

def noPlace : String := "failed to map segment from shared object"

/-- What goes wrong with the zeros behind the bytes from the file. Addresses can be had from a base
on, up to a room. -/
def zerosFault (base room : Nat) (segment : Segment) : Option String :=
  let length := distance segment.pagesEnd segment.memoryEnd
  if segment.fileSize < segment.memorySize && segment.pagesEnd < segment.memoryEnd &&
      (room < distance base segment.memoryEnd ||
        (segment.isWritable && writableLimit < length)) then
    some "cannot map zero-fill pages"
  else none

/-- How much memory right behind an object is taken too, by what came before it. -/
def takenBehind : Nat := 8 * pageSize

/-- What goes wrong when a segment is sealed. Its whole pages have to be memory that is taken. -/
def sealingFault (first last segment : Segment) : Option String :=
  let place (address : Nat) := distance first.start (address / pageSize * pageSize)
  let start := place segment.address
  let stop := place segment.memoryEnd
  if segment.memorySize = 0 ∨ start = stop ∨
      start < stop ∧ stop ≤ roundToPages (spread first last) + takenBehind then
    none
  else
    some "cannot apply additional memory protection after relocation: Cannot allocate memory"

def laterFault (base room : Nat) (segment : Segment) : Option String :=
  if segment.start < segment.pagesEnd &&
      (room < distance base segment.pagesEnd ||
        !canMap segment.isWritable segment.fileStart (segment.pagesEnd - segment.start)) then
    some noPlace
  else zerosFault base room segment

def placingFault (first : Segment) (later : List Segment) : Option String :=
  let last := later.getLastD first
  let length := spread first last
  let room := length + roomAbove
  if reachable ≤ reserve (strictest (first :: later)) length ||
      !canMap first.isWritable first.fileStart length then
    some noPlace
  else if hasHoles (first :: later) && last.start < first.pagesEnd then some misaligned
  else
    (zerosFault first.start room first).or (later.findSome? (laterFault first.start room))

end GuestBridge.Posix.SharedObject
