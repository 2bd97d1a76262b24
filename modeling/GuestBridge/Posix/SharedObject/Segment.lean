import GuestBridge.Posix.SharedObject.Header

/-!
Segments of a shared object: stretches of the file and the addresses that they are for. Those that
are loaded have to keep their order and to fit on pages.
-/
namespace GuestBridge.Posix.SharedObject

/-- A stretch of the file and the addresses that it is for. Behind the bytes from the file come
zeros, up to its size in memory. -/
structure Segment where
  kind : Nat
  flags : Nat
  offset : Nat
  address : Nat
  fileSize : Nat
  memorySize : Nat
  alignment : Nat
  deriving DecidableEq

namespace Segment

def ofBytes (bytes : Bytes) : Segment where
  kind := number bytes 0 4
  flags := number bytes 4 4
  offset := number bytes 8 8
  address := number bytes 16 8
  fileSize := number bytes 32 8
  memorySize := number bytes 40 8
  alignment := number bytes 48 8

def isLoaded (segment : Segment) : Bool := segment.kind == 1

def isDynamic (segment : Segment) : Bool := segment.kind == 2

/-- It says what memory every thread has of its own for the object. -/
def isOfThreads (segment : Segment) : Bool := segment.kind == 7

/-- It says what cannot be written to any more once the object is ready. -/
def isSealed (segment : Segment) : Bool := segment.kind == 0x6474e552

def isWritable (segment : Segment) : Bool := segment.flags / 2 % 2 == 1

/-- The same place on its page in the file and in memory. -/
def isAligned (segment : Segment) : Bool :=
  segment.address % pageSize == segment.offset % pageSize

def start (segment : Segment) : Nat := segment.address / pageSize * pageSize

def fileStart (segment : Segment) : Nat := segment.offset / pageSize * pageSize

/-- Behind the pages with bytes from the file. -/
def pagesEnd (segment : Segment) : Nat :=
  roundToPages ((segment.address + segment.fileSize) % addressRange) % addressRange

def memoryEnd (segment : Segment) : Nat := (segment.address + segment.memorySize) % addressRange

/-- How many bytes from its first page on the file fills. Where zeros follow, they start right
behind the segment's own bytes, and else with the next page. -/
def filled (segment : Segment) : Nat :=
  if segment.fileSize < segment.memorySize then segment.address % pageSize + segment.fileSize
  else distance segment.start segment.pagesEnd

def extent (segment : Segment) : Nat :=
  max (distance segment.start segment.pagesEnd)
    (segment.address % pageSize + segment.memorySize)

end Segment

def segments (file : Content) : List Segment :=
  let rows := table file (header file)
  (List.range (segmentCount (header file))).map fun index =>
    .ofBytes ((rows.drop (entrySize * index)).take entrySize)

/-- Where the dynamic section lies, by the last segment that says so. An empty one means that the
object was stripped of what has to be loaded. -/
def dynamicAddress? (segments : List Segment) : Option Nat :=
  let dynamic := segments.filter (·.isDynamic)
  if dynamic.any (·.fileSize == 0) then none
  else (dynamic.getLast?.map (·.address)).filter (· != 0)

end GuestBridge.Posix.SharedObject
