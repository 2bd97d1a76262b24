import GuestBridge.Posix.Loader.Definition
import GuestBridge.Posix.Loader.ThreadSpace
import GuestBridge.Posix.SharedObject
import GuestBridge.Posix.SystemLibrary
import GuestBridge.Text.Encoded

/-!
Objects in memory: libraries of the system, and shared objects from files. An object answers to the
path of its file, to every name that it was asked for by, and to the name that it gives itself.
-/
namespace GuestBridge.Posix

open SharedObject

structure KnownVersion where
  index : Nat
  name : VersionName
  isHidden : Bool := false
  deriving DecidableEq

inductive ObjectOrigin where
  | library (library : SystemLibrary)
  | file (file : FileId)
  deriving DecidableEq

structure LoadedObject where
  id : LoadedId
  origin : ObjectOrigin
  path : String
  names : List String := []
  object : SharedObject := {}
  versions? : Option (List KnownVersion) := none
  /-- The object on whose behalf it was loaded. -/
  askedFor? : Option LoadedId := none
  needs : List LoadedId := []
  /-- What is seen through the object, in order, once it has been opened by itself. -/
  scope? : Option (List LoadedId) := none
  /-- Other objects that have something that it uses. -/
  uses : List LoadedId := []
  /-- Where threads have their own memory for it, if it asks for any. -/
  threadPlace : ThreadPlace := .undecided
  openings : Nat := 0
  /-- The names of what can be there only once and is here. -/
  uniqueNames : List Bytes := []
  stays : Bool := false
  deriving DecidableEq

def SystemLibrary.marksOf (library : SystemLibrary) (name : String) : List VersionMark :=
  let plain := if library.versioned.isEmpty then .unversioned else .anyOf library.versions
  let named (index : Nat) (isHidden : Bool) (group : VersionedNames) : VersionMark :=
    .indexed (index + 2) isHidden (some (.ofText group.version.toUTF8.toList))
  (if library.symbols.contains name then [plain] else []) ++
    library.versioned.zipIdx.flatMap fun (group, index) =>
      (if group.names.contains name then [named index false group] else []) ++
        (if group.olderNames.contains name then [named index true group] else [])

namespace LoadedObject

def shownName (loaded : LoadedObject) : String :=
  if loaded.path = "" then "<main program>" else loaded.path

def base (loaded : LoadedObject) : Nat := (loaded.id.index + 1) * Nat.pow 2 32

variable (contents : FileId → Content)

def ownName? (loaded : LoadedObject) : Option String :=
  match loaded.origin with
  | .library library => some library.name
  | .file file => (loaded.object.ownName? (contents file)).map Text.decoded

def dependencies (loaded : LoadedObject) : List Dependency :=
  match loaded.origin with
  | .library library =>
    library.needed.map fun name =>
      { name := name.toUTF8.toList, isFiltee := false, isOptional := false }
  | .file file => loaded.object.dependencies (contents file)

def wasCalled (loaded : LoadedObject) (name : String) : Bool :=
  loaded.path == name || loaded.names.contains name

def called (loaded : LoadedObject) (name : String) : LoadedObject :=
  if loaded.wasCalled name then loaded else { loaded with names := loaded.names ++ [name] }

def answersTo (loaded : LoadedObject) (name : String) : Bool :=
  loaded.wasCalled name || loaded.ownName? contents == some name

/-- The version that an index stands for. Of two with one index the later counts. -/
def version? (loaded : LoadedObject) (index : Nat) : Option KnownVersion :=
  (loaded.versions?.getD []).reverse.find? (·.index == index)

def markOf (loaded : LoadedObject) (content : Content) (index : Nat) : VersionMark :=
  match loaded.versions?, loaded.object.versionMark? content index with
  | some _, some mark =>
    let index := Version.indexOf mark
    .indexed index (Version.isHiddenMark mark) ((loaded.version? index).map (·.name))
  | _, _ => .unversioned

def wantedVersion? (loaded : LoadedObject) (content : Content) (index : Nat) :
    Option WantedVersion := do
  let mark ← loaded.object.versionMark? content index
  let version ← loaded.version? (Version.indexOf mark)
  if version.name.number = 0 then none
  else return ⟨version.name, version.isHidden⟩

def addressOf (loaded : LoadedObject) (content : Content) (symbol : Symbol) : Nat :=
  (loaded.object.answerOf? content symbol).getD
    (((if symbol.isAbsolute then 0 else loaded.base) + symbol.value) % addressRange)

def definitions (loaded : LoadedObject) (request : Request) : List Definition :=
  match loaded.origin with
  | .library library =>
    (library.marksOf (Text.decoded request.name)).map fun mark =>
      { object := loaded.id, address := loaded.base, mark }
  | .file file =>
    let content := contents file
    ((loaded.object.named content request.name).filter
      (·.2.isCandidate request.forCalls)).map fun (index, symbol) =>
        { object := loaded.id
          address := loaded.addressOf content symbol
          mark := loaded.markOf content index
          isVisible :=
            !symbol.isHidden && symbol.binding ∈ [Binding.strong, .weak, .unique]
          isOfThread := symbol.isOfThread
          isUnique := symbol.binding = .unique }

def threadBlock? (loaded : LoadedObject) : Option ThreadBlock :=
  match loaded.threadPlace, loaded.object.ofThreads? with
  | .fixed stop, some segment => some ⟨stop, segment.memorySize⟩
  | _, _ => none

end LoadedObject

/-- Looks for a name in objects in order. A definition that others cannot use is passed over. -/
def Request.lookUp (request : Request) (contents : FileId → Content)
    (scope : List LoadedObject) : Option Definition :=
  scope.findSome? fun loaded =>
    (request.choose (loaded.definitions contents request)).filter (·.isVisible)

end GuestBridge.Posix
