import GuestBridge.Posix.StoredFile

/-!
Numbers as shared objects keep them: so many bytes, the low one first. Addresses are numbers of
eight bytes, and they are counted round.
-/
namespace GuestBridge.Posix.SharedObject

/-- The number in so many bytes from a position on, the low byte first. -/
def number (bytes : Bytes) (position size : Nat) : Nat :=
  ((bytes.drop position).take size).foldr (fun byte rest => byte.toNat + 256 * rest) 0

def byte (bytes : Bytes) (position : Nat) : Nat := number bytes position 1

def bytesOf (value : Nat) : Nat → Bytes
  | 0 => []
  | size + 1 => UInt8.ofNat value :: bytesOf (value / 256) size

def addressRange : Nat := Nat.pow 2 64

def distance (low high : Nat) : Nat := (high + addressRange - low) % addressRange

end GuestBridge.Posix.SharedObject
