import GuestBridge.Bytes

/-!
Contents of files and memory: byte sequences in stretches, where a run of one byte takes no room
however long it is. Every operation is the one on byte lists: `toList_take`, `toList_drop`,
`toList_append`, `toList_overwrite` and `toList_resize` say so.
-/
namespace GuestBridge.Posix

/-- A stretch of bytes: written out, or one byte over and over. -/
inductive Extent where
  | literal (bytes : Array UInt8)
  | run (count : Nat) (byte : UInt8)
  deriving DecidableEq

namespace Extent

def toList : Extent → Bytes
  | literal bytes => bytes.toList
  | run count byte => List.replicate count byte

def size : Extent → Nat
  | literal bytes => bytes.size
  | run count _ => count

theorem length_toList (extent : Extent) : extent.toList.length = extent.size := by
  cases extent <;> simp [toList, size]

def take (extent : Extent) (count : Nat) : Extent :=
  match extent with
  | literal bytes => literal (bytes.extract 0 count)
  | run size byte => run (min count size) byte

def drop (extent : Extent) (count : Nat) : Extent :=
  match extent with
  | literal bytes => literal (bytes.extract count bytes.size)
  | run size byte => run (size - count) byte

theorem toList_take (extent : Extent) (count : Nat) :
    (extent.take count).toList = extent.toList.take count := by
  cases extent <;> simp [toList, take]

theorem toList_drop (extent : Extent) (count : Nat) :
    (extent.drop count).toList = extent.toList.drop count := by
  cases extent with
  | literal bytes =>
    rw [toList, drop, toList, Array.toList_extract, List.extract_eq_take_drop,
      List.take_of_length_le]
    simp
  | run => simp [toList, drop]

/-- The sum of the bytes as numbers. -/
def sum : Extent → Nat
  | literal bytes => bytes.foldl (fun total byte => total + byte.toNat) 0
  | run count byte => count * byte.toNat

end Extent

/-- A content, as its stretches in order. -/
structure Content where
  extents : List Extent := []
  deriving DecidableEq

namespace Content

def toList (content : Content) : Bytes := content.extents.flatMap Extent.toList

def size (content : Content) : Nat :=
  content.extents.foldr (fun extent rest => extent.size + rest) 0

def isEmpty (content : Content) : Bool := content.size == 0

/-- One byte that many times. -/
def replicate (count : Nat) (byte : UInt8) : Content :=
  if count = 0 then {} else ⟨[.run count byte]⟩

def zeros (count : Nat) : Content := replicate count 0

def ofArray (bytes : Array UInt8) : Content := if bytes.isEmpty then {} else ⟨[.literal bytes]⟩

def ofList (bytes : Bytes) : Content := ofArray bytes.toArray

/-- The bytes over and over, that many times. -/
def cycle (bytes : Bytes) (count : Nat) : Content :=
  match bytes with
  | [byte] => replicate count byte
  | _ => ofList (List.replicate count bytes).flatten

/-- A content over and over, that many times. Its stretches are shared. -/
def repeated (content : Content) (times : Nat) : Content :=
  ⟨(List.replicate times content.extents).flatten⟩

def append (first second : Content) : Content := ⟨first.extents ++ second.extents⟩

instance : Append Content := ⟨append⟩

def takeExtents : Nat → List Extent → List Extent
  | _, [] => []
  | count, extent :: rest =>
    if extent.size ≤ count then extent :: takeExtents (count - extent.size) rest
    else if count = 0 then [] else [extent.take count]

def dropExtents : Nat → List Extent → List Extent
  | _, [] => []
  | count, extent :: rest =>
    if extent.size ≤ count then dropExtents (count - extent.size) rest
    else if count = 0 then extent :: rest else extent.drop count :: rest

def take (content : Content) (count : Nat) : Content := ⟨takeExtents count content.extents⟩

def drop (content : Content) (count : Nat) : Content := ⟨dropExtents count content.extents⟩

/-- The bytes from a position on, at most so many. -/
def slice (content : Content) (position count : Nat) : Content := (content.drop position).take count

/-- The content with another one put in at a position, over what was there; a gap before the
position is filled with zeros. -/
def overwrite (content : Content) (position : Nat) (patch : Content) : Content :=
  content.take position ++ zeros (position - content.size) ++ patch ++
    content.drop (position + patch.size)

/-- Exactly that many bytes: cut off, or filled up with zeros. -/
def resize (content : Content) (size : Nat) : Content :=
  content.take size ++ zeros (size - content.size)

/-- Shorter pieces than this are written out several times before they are repeated. -/
def blockSize : Nat := 65536

/-- So many bytes from a position on that are copied one after another to a later place in the same
content. What has been copied is copied again when its turn comes, so there is no end to them. -/
def circulating (content : Content) (position cursor count : Nat) : Content :=
  if position < content.size then
    let period := (content.resize (max content.size cursor)).slice position (cursor - position)
    let block :=
      if period.size < blockSize then
        cycle period.toList (blockSize / period.size + 1)
      else period
    (block.repeated (count / block.size + 1)).take count
  else {}

/-- The sum of the bytes as numbers. -/
def sum (content : Content) : Nat :=
  content.extents.foldr (fun extent rest => extent.sum + rest) 0

theorem length_toList (content : Content) : content.toList.length = content.size := by
  obtain ⟨extents⟩ := content
  induction extents with
  | nil => rfl
  | cons extent rest ih => simpa [toList, size, Extent.length_toList] using ih

theorem toList_append (first second : Content) :
    (first ++ second).toList = first.toList ++ second.toList := by
  change (first.extents ++ second.extents).flatMap Extent.toList = _
  simp [toList]

theorem toList_replicate (count : Nat) (byte : UInt8) :
    (replicate count byte).toList = List.replicate count byte := by
  unfold replicate
  split <;> simp_all [toList, Extent.toList]

theorem toList_zeros (count : Nat) : (zeros count).toList = List.replicate count 0 :=
  toList_replicate count 0

theorem toList_ofArray (bytes : Array UInt8) : (ofArray bytes).toList = bytes.toList := by
  unfold ofArray
  split <;> simp_all [toList, Extent.toList]

theorem toList_ofList (bytes : Bytes) : (ofList bytes).toList = bytes := by
  simp [ofList, toList_ofArray]

theorem flatMap_takeExtents (extents : List Extent) (count : Nat) :
    (takeExtents count extents).flatMap Extent.toList =
      (extents.flatMap Extent.toList).take count := by
  induction extents generalizing count with
  | nil => simp [takeExtents]
  | cons extent rest ih =>
    rw [takeExtents, List.flatMap_cons, List.take_append, Extent.length_toList]
    split
    · have whole : extent.toList.length ≤ count := by rwa [Extent.length_toList]
      rw [List.flatMap_cons, ih, List.take_of_length_le whole]
    · have noRest : count - extent.size = 0 := by omega
      split <;> simp_all [Extent.toList_take]

theorem flatMap_dropExtents (extents : List Extent) (count : Nat) :
    (dropExtents count extents).flatMap Extent.toList =
      (extents.flatMap Extent.toList).drop count := by
  induction extents generalizing count with
  | nil => simp [dropExtents]
  | cons extent rest ih =>
    rw [dropExtents, List.flatMap_cons, List.drop_append, Extent.length_toList]
    split
    · have whole : extent.toList.length ≤ count := by rwa [Extent.length_toList]
      rw [ih, List.drop_of_length_le whole, List.nil_append]
    · have noRest : count - extent.size = 0 := by omega
      split <;> simp_all [Extent.toList_drop]

theorem toList_take (content : Content) (count : Nat) :
    (content.take count).toList = content.toList.take count :=
  flatMap_takeExtents content.extents count

theorem toList_drop (content : Content) (count : Nat) :
    (content.drop count).toList = content.toList.drop count :=
  flatMap_dropExtents content.extents count

theorem toList_slice (content : Content) (position count : Nat) :
    (content.slice position count).toList = (content.toList.drop position).take count := by
  rw [slice, toList_take, toList_drop]

theorem toList_overwrite (content : Content) (position : Nat) (patch : Content) :
    (content.overwrite position patch).toList =
      content.toList.overwrite position patch.toList := by
  simp only [overwrite, Bytes.overwrite, toList_append, toList_take, toList_zeros, toList_drop,
    length_toList]

theorem toList_resize (content : Content) (size : Nat) :
    (content.resize size).toList = content.toList.resize size := by
  simp only [resize, Bytes.resize, toList_append, toList_take, toList_zeros, length_toList]

end Content

end GuestBridge.Posix
