import GuestBridge.Posix.Loader

/-!
Making new objects ready for use: the versions that they need have to be defined where they are
expected, and every symbol that they refer to has to be found, unless the reference is a weak one.
-/
namespace GuestBridge.Posix

open SharedObject

namespace Loader

/-! ### Versions -/

/-- Whether an object defines a version; it may be that it knows of no versions at all. Nothing
comes back if it does not. -/
def definesVersion (contents : FileId → Content) (loaded : LoadedObject) (name : VersionName) :
    Except String Bool :=
  match loaded.origin with
  | .library library =>
    .ok (library.versions.isEmpty ||
      library.versions.any fun version => VersionName.ofText version.toUTF8.toList = name)
  | .file file =>
    match loaded.object.definedVersions (contents file) with
    | none => .ok true
    | some versions =>
      match versions.find? fun version => version.form ≠ versionForm ∨ version.name = name with
      | none => .ok false
      | some version =>
        if version.form = versionForm then .ok true
        else
          .error (loaded.shownName ++ ": unsupported version " ++ toString version.form ++
            " of Verdef record")

def checkVersion (contents : FileId → Content) (loader : Loader) (loaded : LoadedObject)
    (version : NeededVersion) : Except String Unit := do
  match loader.objects.find? (·.wasCalled (Text.decoded version.library)) with
  | none => return ()
  | some library =>
    if !(← definesVersion contents library version.name) && !version.isWeak then
      throw (library.shownName ++ ": version " ++ "`" ++ Text.decoded version.name.text ++
        "' not found (required by " ++ loaded.shownName ++ ")")

def knownVersions (content : Content) (object : SharedObject) : Option (List KnownVersion) :=
  let needed := object.neededVersions content
  let defined := (object.definedVersions content).getD []
  if (needed.all (·.index == 0)) && defined.all (·.index == 0) then none
  else
    some ((needed.map fun version =>
      { index := version.index
        name := version.name
        isHidden := version.isHidden }) ++
      (defined.filter (!·.isBase)).map fun version =>
        { index := version.index, name := version.name })

def shortFormVersion : Bytes := "GLIBC_ABI_DT_RELR".toUTF8.toList

/-- Whether an object has relocations in short form and does not say so by its versions. Without
any, or without the C library, it need not. -/
def hidesShortForm (content : Content) (object : SharedObject) : Bool :=
  (object.dynamic.value? Tag.neededVersions).isSome &&
    (object.dynamic.value? Tag.shortRelocations).isSome && object.needsC content &&
    !(object.neededVersions content).any (·.name.text == shortFormVersion)

def settleVersions (contents : FileId → Content) (loader : Loader) (id : LoadedId) :
    Except String Loader := do
  let some loaded := loader.object? id | return loader
  match loaded.origin with
  | .library _ => return loader
  | .file file =>
    let content := contents file
    if let some form := loaded.object.neededForm? content then
      if form ≠ versionForm then
        throw (loaded.shownName ++ ": unsupported version " ++ toString form ++
          " of Verneed record")
    (loaded.object.neededVersions content).forM (checkVersion contents loader loaded)
    if hidesShortForm content loaded.object then
      throw (loaded.shownName ++ ": DT_RELR without GLIBC_ABI_DT_RELR dependency")
    let versions? := knownVersions content loaded.object
    return loader.change id fun loaded => { loaded with versions? }

/-! ### Relocations -/

def undefinedText (loaded : LoadedObject) (request : Request) : String :=
  loaded.shownName ++ ": undefined symbol: " ++ Text.decoded request.name ++
    match request.version? with
    | some version => ", version " ++ Text.decoded version.name.text
    | none => ""

/-- Indices of versions that a reference without a version does not count as none. -/
def referenceLimit : Nat := 3

/-- What a relocation refers to, seen by an object. A symbol of its own needs no search. -/
def resolve (contents : FileId → Content) (scope : List LoadedObject) (loaded : LoadedObject)
    (content : Content) (relocation : Relocation) : Except String (Option Definition) := do
  let symbol := loaded.object.symbol content relocation.symbol
  let found ←
    if symbol.binding = .own || symbol.isHidden then
      let address := loaded.addressOf content symbol
      pure (some { object := loaded.id, address, mark := .unversioned })
    else
      let request : Request := {
        name := loaded.object.text content symbol.name
        version? := loaded.wantedVersion? content relocation.symbol
        limit := referenceLimit
        forCalls := relocation.isForCalls }
      match request.lookUp contents scope with
      | some definition => pure (some definition)
      | none =>
        if symbol.binding = .weak then pure none else throw (undefinedText loaded request)
  if let some fault := relocation.fault? then throw (loaded.shownName ++ ": " ++ fault)
  return found

/-- Does what a relocation asks for. The object keeps the one that has what it refers to. -/
def apply (contents : FileId → Content) (scope : List LoadedObject) (loaded : LoadedObject)
    (content : Content) (loader : Loader) (relocation : Relocation) : Except String Loader := do
  let some definition ← resolve contents scope loaded content relocation | return loader
  let name := loaded.object.text content (loaded.object.symbol content relocation.symbol).name
  let (owner, unified) := loader.unified name definition
  let after := unified.change loaded.id fun loaded =>
    { loaded with uses := (loaded.uses ++ [owner]).eraseDups }
  match relocation.threadUse with
  | .none => return after
  | .desired => return (after.fixThreadPlace? owner true).getD after
  | .required =>
    match after.fixThreadPlace? owner false with
    | some fixed => return fixed
    | none =>
      throw (((after.object? owner).getD loaded).shownName ++
        ": cannot allocate memory in static TLS block")

def relocate (contents : FileId → Content) (scope : List LoadedObject) (loader : Loader)
    (id : LoadedId) : Except String Loader := do
  let some loaded := loader.object? id | return loader
  match loaded.origin with
  | .library _ => return loader
  | .file file =>
    let content := contents file
    let scope := if loaded.object.dynamic.looksInItselfFirst then loaded :: scope else scope
    let relocations := (loaded.object.relocations content).filter (·.looksUp)
    let relocated ← relocations.foldlM (apply contents scope loaded content) loader
    if let some fault := loaded.object.sealingFault? then throw (loaded.shownName ++ ": " ++ fault)
    return relocated

def deepestFirst (needs : LoadedId → List LoadedId) :
    Nat → List LoadedId × List LoadedId → LoadedId → List LoadedId × List LoadedId
  | 0, progress, _ => progress
  | fuel + 1, (visited, order), id =>
    if visited.contains id then (visited, order)
    else
      let (visited, order) :=
        (needs id).foldl (deepestFirst needs fuel) (id :: visited, order)
      (visited, order ++ [id])

/-- Makes new objects ready for use. They see what the program sees and what is seen through the
root, which they are needed by and which comes last. -/
def link (contents : FileId → Content) (loader : Loader) (root : LoadedId)
    (new : List LoadedId) : Except String Loader := do
  let settled ← new.foldlM (settleVersions contents) loader
  let scope := settled.scope program ++ settled.scope root
  let needs (id : LoadedId) := if id = root then [] else settled.needs id
  let fuel := settled.objects.length + 1
  let order := (new.reverse.foldl (deepestFirst needs fuel) ([], [])).2
  let before := order.filter fun id => new.contains id && id ≠ root
  (before ++ new.filter (· = root)).foldlM (relocate contents scope) settled

end Loader

end GuestBridge.Posix
