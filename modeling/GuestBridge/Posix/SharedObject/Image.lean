import GuestBridge.Posix.SharedObject.Segment

/-!
A shared object in memory: its loaded segments over the content of its file. Nothing is copied, so
what is written to the file later is seen at the addresses that it is for.
-/
namespace GuestBridge.Posix.SharedObject

structure Image where
  loads : List Segment
  content : Content

namespace Image

/-- The segment that an address belongs to. Later ones lie over earlier ones. -/
def segmentAt? (image : Image) (address : Nat) : Option Segment :=
  image.loads.reverse.find? fun segment => distance segment.start address < segment.extent

def filledAt (image : Image) (address count : Nat) : Bytes :=
  match image.segmentAt? address with
  | none => []
  | some segment =>
    let position := distance segment.start address
    (image.content.slice (segment.fileStart + position)
      (min count (segment.filled - position))).toList

/-- The bytes at an address. What the file does not fill is zero. -/
def bytesAt (image : Image) (address count : Nat) : Bytes :=
  (image.filledAt address count).resize count

def numberAt (image : Image) (address size : Nat) : Nat :=
  number (image.bytesAt (address % addressRange) size) 0 size

def longestText : Nat := 65536

def textAt (image : Image) (address : Nat) : Bytes :=
  (image.filledAt (address % addressRange) longestText).takeWhile (· ≠ 0)

end Image

end GuestBridge.Posix.SharedObject
