import GuestBridge.Posix.SharedObject.Version

/-!
What a name stands for in one object, and which of several definitions is meant. Whoever asks for a
version gets a definition that has it; whoever asks for none gets a definition without a version, or
the only one that is not hidden.
-/
namespace GuestBridge.Posix

open SharedObject

structure LoadedId where
  index : Nat
  deriving DecidableEq

/-- A version that is asked for along with a name. A hidden one takes no other in its place. -/
structure WantedVersion where
  name : VersionName
  isHidden : Bool
  deriving DecidableEq

/-- The version of a definition: none, one with an index in its object, or any of those that its
library defines. -/
inductive VersionMark where
  | unversioned
  | indexed (index : Nat) (isHidden : Bool) (name? : Option VersionName)
  | anyOf (versions : List String)
  deriving DecidableEq

namespace VersionMark

def meets : VersionMark → WantedVersion → Bool
  | unversioned, _ => true
  | indexed _ _ (some name), wanted => name = wanted.name
  | indexed _ isHidden none, wanted => !isHidden && !wanted.isHidden
  | anyOf versions, wanted =>
    versions.any fun version => VersionName.ofText version.toUTF8.toList = wanted.name

def isPlain (limit : Nat) : VersionMark → Bool
  | indexed index _ _ => index < limit
  | _ => true

def isHidden : VersionMark → Bool
  | indexed _ isHidden _ => isHidden
  | _ => false

end VersionMark

structure Definition where
  object : LoadedId
  address : Nat
  mark : VersionMark
  isVisible : Bool := true
  /-- Whether it is in the memory that every thread has of its own. -/
  isOfThread : Bool := false
  /-- Whether there can be only one of the name, so that its object has to stay. -/
  isUnique : Bool := false
  deriving DecidableEq

structure Request where
  name : Bytes
  version? : Option WantedVersion := none
  limit : Nat
  /-- Whether the name has to stand for something in a section of the object. -/
  forCalls : Bool := false
  deriving DecidableEq

def Request.newest (name : Bytes) : Request := { name, limit := 2 }

def Request.choose (request : Request) (definitions : List Definition) : Option Definition :=
  match request.version? with
  | some version => definitions.find? (·.mark.meets version)
  | none =>
    match definitions.find? (·.mark.isPlain request.limit) with
    | some definition => some definition
    | none =>
      match definitions.filter (!·.mark.isHidden) with
      | [only] => some only
      | _ => none

end GuestBridge.Posix
