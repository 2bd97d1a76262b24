/-!
Byte sequences, with the two ways in which the content of a file changes: bytes written over it at
a position, and a new size. A buffer changes by what is read into it.
-/
namespace GuestBridge

abbrev Bytes : Type := List UInt8

namespace Bytes

/-- The bytes with others put in at a position, over what was there; a gap before the position is
filled with zeros. -/
def overwrite (content : Bytes) (position : Nat) (bytes : Bytes) : Bytes :=
  content.take position ++ List.replicate (position - content.length) 0 ++ bytes ++
    content.drop (position + bytes.length)

def resize (content : Bytes) (size : Nat) : Bytes :=
  content.take size ++ List.replicate (size - content.length) 0

/-- A buffer after bytes were read into it: they take its places from the start on, one each, and a
place for which none is left stays as it is. -/
def fill (buffer bytes : Bytes) : Bytes :=
  List.zipWith (fun _ byte => byte) buffer bytes ++ buffer.drop bytes.length

theorem fill_eq_append {buffer bytes : Bytes} (fits : bytes.length ≤ buffer.length) :
    buffer.fill bytes = bytes ++ buffer.drop bytes.length := by
  have paired : List.zipWith (fun _ byte => byte) buffer bytes = bytes := by
    apply List.ext_getElem
    · simp only [List.length_zipWith]
      omega
    · intro index _ _
      exact List.getElem_zipWith
  rw [fill, paired]

end Bytes

end GuestBridge
