import GuestBridge.Posix.StoredFile

/-!
Bytes of a file that were sent to a socket and that its peer has not received yet. Sending copies
nothing: as long as the file has the pages that the bytes lie on, the peer receives what is on those
pages by then. A file that is cut off lets go of the pages behind its new end, and the peer receives
what they held last.
-/
namespace GuestBridge.Posix

inductive Parcel where
  | kept (content : Content)
  | shared (file : FileId) (position count : Nat)
  deriving DecidableEq

namespace Parcel

def size : Parcel → Nat
  | kept content => content.size
  | shared _ _ count => count

def take (parcel : Parcel) (wanted : Nat) : Parcel :=
  match parcel with
  | kept content => kept (content.take wanted)
  | shared file position count => shared file position (min wanted count)

def drop (parcel : Parcel) (wanted : Nat) : Parcel :=
  match parcel with
  | kept content => kept (content.drop wanted)
  | shared file position count => shared file (position + wanted) (count - wanted)

/-- What a file shows from a position on, whether there are so many bytes or not. -/
def shownIn (stored : StoredFile) (position count : Nat) : Content :=
  (stored.shown.slice position count).resize count

def content (stored : FileId → StoredFile) : Parcel → Content
  | kept content => content
  | shared file position count => shownIn (stored file) position count

/-- Whether the parcel has bytes on a block of a file. -/
def uses (parcel : Parcel) (file : FileId) (block : PageBlock) : Bool :=
  match parcel with
  | kept _ => false
  | shared owner position count =>
    owner == file && block.start < position + count && position < block.stop

/-- The parcel once a file has only the pages before a limit. -/
def release (parcel : Parcel) (file : FileId) (stored : StoredFile) (limit : Nat) : List Parcel :=
  match parcel with
  | kept _ => [parcel]
  | shared owner position count =>
    if owner = file ∧ limit < position + count then
      let staying := limit - position
      [shared owner position staying,
        kept (shownIn stored (position + staying) (count - staying))]
    else [parcel]

def takeAll : Nat → List Parcel → List Parcel
  | _, [] => []
  | wanted, parcel :: rest =>
    parcel.take wanted :: takeAll (wanted - parcel.size) rest

def dropAll : Nat → List Parcel → List Parcel
  | _, [] => []
  | wanted, parcel :: rest =>
    if parcel.size ≤ wanted then dropAll (wanted - parcel.size) rest
    else parcel.drop wanted :: rest

end Parcel

end GuestBridge.Posix
