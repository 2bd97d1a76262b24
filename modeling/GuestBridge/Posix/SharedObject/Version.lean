import GuestBridge.Posix.SharedObject.NameTable

/-!
Versions of symbols. An object lists the versions that it defines, and by library those that it
needs; each has an index in the object, which its symbols refer to.
-/
namespace GuestBridge.Posix.SharedObject

structure VersionName where
  number : Nat
  text : Bytes
  deriving DecidableEq

def VersionName.ofText (text : Bytes) : VersionName := ⟨plainNumber text, text⟩

structure NeededVersion where
  library : Bytes
  name : VersionName
  index : Nat
  isHidden : Bool
  isWeak : Bool
  deriving DecidableEq

/-- A version that is defined. A record in a form that is not known has the number of the form. -/
structure DefinedVersion where
  form : Nat
  name : VersionName
  index : Nat
  /-- Whether it is the object's own name, which no symbol asks for. -/
  isBase : Bool
  deriving DecidableEq

def versionForm : Nat := 1

namespace Version

/-- The low bits of an index; the one above them hides what has the version. -/
def indexOf (mark : Nat) : Nat := mark % Nat.pow 2 15

def isHiddenMark (mark : Nat) : Bool := hasFlag mark 15

variable (image : Image) (texts : Nat)

/-- The versions needed from one library, each record saying how far it is to the next. -/
def neededFrom (library : Bytes) : Nat → Nat → List NeededVersion
  | 0, _ => []
  | fuel + 1, address =>
    let mark := image.numberAt (address + 6) 2
    let next := image.numberAt (address + 12) 4
    { library
      name := ⟨image.numberAt address 4, image.textAt (texts + image.numberAt (address + 8) 4)⟩
      index := indexOf mark
      isHidden := isHiddenMark mark
      isWeak := hasFlag (image.numberAt (address + 4) 2) 1 } ::
      if next = 0 then [] else neededFrom library fuel (address + next)

def needed : Nat → Nat → List NeededVersion
  | 0, _ => []
  | fuel + 1, address =>
    let library := image.textAt (texts + image.numberAt (address + 4) 4)
    let next := image.numberAt (address + 12) 4
    neededFrom image texts library (image.content.size + 1)
        (address + image.numberAt (address + 8) 4) ++
      if next = 0 then [] else needed fuel (address + next)

def defined : Nat → Nat → List DefinedVersion
  | 0, _ => []
  | fuel + 1, address =>
    let next := image.numberAt (address + 16) 4
    let names := address + image.numberAt (address + 12) 4
    { form := image.numberAt address 2
      name := ⟨image.numberAt (address + 8) 4, image.textAt (texts + image.numberAt names 4)⟩
      index := indexOf (image.numberAt (address + 4) 2)
      isBase := hasFlag (image.numberAt (address + 2) 2) 0 } ::
      if next = 0 then [] else defined fuel (address + next)

end Version

end GuestBridge.Posix.SharedObject
