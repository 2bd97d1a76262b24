import GuestBridge.Posix.Installation
import GuestBridge.Posix.Loader

/-!
Where the dynamic loader looks for an object. A name with a slash is a path; any other is looked for
in the directories that the object names on whose behalf it is loaded, and then among the system's
libraries. Paths can have words in them that stand for directories.
-/
namespace GuestBridge.Posix

open SharedObject

/-- What is in the way of an object at a path: it is not there, it is for another class of machines,
or it is there and cannot be loaded, which ends the search. -/
inductive Obstacle where
  | missing (cause : SystemError)
  | otherClass
  | fault (text : String)
  deriving DecidableEq

def Obstacle.reason? : Obstacle → Option String
  | missing cause => some cause.description
  | otherClass => some SystemError.noSuchFile.description
  | fault _ => none

structure Located where
  origin : ObjectOrigin
  path : String

namespace Loader

/-! ### Words for directories -/

def programDirectory : String := "/usr/local/bin"

def workingDirectory : String := "/" ++ String.intercalate "/" Installation.workingDirectory

def directoryOf (loaded : LoadedObject) : String :=
  if loaded.path = "" then programDirectory
  else
    let path :=
      if loaded.path.startsWith "/" then loaded.path else workingDirectory ++ "/" ++ loaded.path
    String.ofList (path.toList.reverse.dropWhile (· ≠ '/')).reverse.dropLast

def directoryWords (loaded : LoadedObject) : List (String × String) :=
  [("ORIGIN", directoryOf loaded), ("PLATFORM", "haswell"), ("LIB", "lib/x86_64-linux-gnu")]

/-- The text behind a word at the start, which can be in braces. Without braces no letter, digit or
low line follows it. -/
def afterWord? (word text : List Char) : Option (List Char) :=
  let inBraces := ['\x7b'] ++ word ++ ['\x7d']
  if inBraces.isPrefixOf text then some (text.drop inBraces.length)
  else if word.isPrefixOf text then
    let rest := text.drop word.length
    match rest.head? with
    | some next => if next.isAlphanum || next = '_' then none else some rest
    | none => some rest
  else none

def expand (words : List (String × String)) : Nat → List Char → List Char
  | 0, _ => []
  | _, [] => []
  | fuel + 1, character :: rest =>
    let replaced := words.findSome? fun (word, value) =>
      (afterWord? word.toList rest).map fun after => (value.toList, after)
    match character, replaced with
    | '$', some (value, after) => value ++ expand words fuel after
    | other, _ => other :: expand words fuel rest

def expanded (loaded : LoadedObject) (text : String) : String :=
  String.ofList (expand (directoryWords loaded) (text.length + 1) text.toList)

/-! ### Paths -/

def lookAt (system : System) (path : String) : Except Obstacle Located :=
  let fault (text : String) := Except.error (Obstacle.fault (path ++ ": " ++ text))
  let missing (cause : SystemError) := Except.error (Obstacle.missing cause)
  match system.tree.find path .look with
  | .error cause => missing cause
  | .ok (.missing ..) => missing .noSuchFile
  | .ok (.directory _) => fault (cannotRead SystemError.isADirectory.description)
  | .ok (.file file) =>
    match Installation.file? file, defect? (system.content file) with
    | some (.library library), _ => .ok ⟨.library library, path⟩
    | some (.refused reason), _ => fault reason
    | some (.closed cause), _ => missing cause
    | none, none => .ok ⟨.file file, path⟩
    | none, some .foreign => missing .noSuchFile
    | none, some .otherClass => .error .otherClass
    | none, some (.described text) => fault text

/-! ### Directories -/

/-- One of the directories that an object names, with a slash at its end. An empty one is the
working directory. -/
def directory? (loaded : LoadedObject) (text : String) : Option String :=
  if text = "" then some ""
  else
    let path := expanded loaded text
    if path = "" then none
    else
      let trimmed := (path.toList.reverse.dropWhile (· = '/')).reverse
      some (String.ofList trimmed ++ "/")

def directories (system : System) (loaded : LoadedObject) (tag : Nat) : Option (List String) :=
  match loaded.origin with
  | .library _ => none
  | .file file =>
    (loaded.object.dynamic.value? tag).map fun position =>
      let text := Text.decoded (loaded.object.text (system.content file) position)
      if text = "" then [] else (text.splitOn ":").filterMap (directory? loaded)

def askers (loader : Loader) : Nat → Option LoadedId → List LoadedObject
  | 0, _ => []
  | fuel + 1, asker =>
    match asker.bind loader.object? with
    | some loaded => loaded :: askers loader fuel loaded.askedFor?
    | none => []

/-- The directories to look in on behalf of an object. The newer entry makes the older ones void. -/
def searched (system : System) (loader : Loader) (asker : Option LoadedId) : List String :=
  let askers := askers loader (loader.objects.length + 1) asker
  match askers.head?.bind (directories system · Tag.runPath) with
  | some newer => newer
  | none =>
    askers.flatMap fun loaded =>
      if (directories system loaded Tag.runPath).isSome then []
      else (directories system loaded Tag.searchPath).getD []

/-- Whether a directory from a list is there. Of one that starts at the working directory that is
taken for granted. -/
def isThere (system : System) (directory : String) : Bool :=
  !directory.startsWith "/" || system.tree.find directory .look matches .ok (.directory _)

/-! ### Names -/

def missingText (name : String) (reason? : Option String) : String :=
  name ++ ": " ++ cannotOpen reason?

def otherClassText (name : String) : String := name ++ ": wrong ELF class: ELFCLASS32"

/-- Puts down why an attempt led nowhere, or that it did not. -/
def noted (outcome : Except Obstacle Located) :
    Action Loader String (Except Obstacle Located) := do
  let reason? :=
    match outcome with
    | .ok _ => none
    | .error obstacle => obstacle.reason?
  modify ({ · with reason? })
  return outcome

/-- The first object that a name leads to in directories; without one, whether there was one for
another class of machines. A directory that is found not to be there is not tried again. -/
def searchIn (system : System) (name : String) :
    List String → (sawOther : Bool) → Action Loader String (Option Located × Bool)
  | [], sawOther => return (none, sawOther)
  | directory :: rest, sawOther => do
    if (← get).absent.contains directory then searchIn system name rest sawOther
    else
      match ← noted (lookAt system (directory ++ name)) with
      | .ok located => return (some located, sawOther)
      | .error (.fault text) => throw text
      | .error .otherClass => searchIn system name rest true
      | .error (.missing _) =>
        if !isThere system directory then
          modify fun loader => { loader with absent := loader.absent ++ [directory] }
        searchIn system name rest sawOther

def searchSystem (name : String) : Except Obstacle Located :=
  let path := SystemLibrary.directory ++ name
  if Path.longestName < name.utf8ByteSize then .error (.missing .nameTooLong)
  else if name = "." ∨ name = ".." then
    .error (.fault (path ++ ": " ++ cannotRead SystemError.isADirectory.description))
  else if name ∈ SystemLibrary.scripts then .error (.fault (path ++ ": invalid ELF header"))
  else
    match SystemLibrary.named? name with
    | some library => .ok ⟨.library library, path⟩
    | none => .error (.missing .noSuchFile)

def locatePath (system : System) (asker : Option LoadedId) (name : String) :
    Action Loader String Located := do
  let path := (((← get).object? (asker.getD program)).map (expanded · name)).getD name
  match ← noted (lookAt system path) with
  | .ok located => return located
  | .error (.fault text) => throw text
  | .error .otherClass => throw (otherClassText name)
  | .error (.missing cause) => throw (missingText name (some cause.description))

def locate (system : System) (asker : Option LoadedId) (name : String) :
    Action Loader String Located := do
  if '/' ∈ name.toList then locatePath system asker name
  else
    let loader ← get
    match ← searchIn system name (searched system loader asker) false with
    | (some located, _) => return located
    | (none, sawOther) =>
      let asking? := asker.bind loader.object?
      if !(asking?.any (·.object.dynamic.avoidsSystem)) then
        match ← noted (searchSystem name) with
        | .ok located => return located
        | .error (.fault text) => throw text
        | .error _ => pure ()
      if sawOther then throw (otherClassText name)
      else throw (missingText name (← get).reason?)

end Loader

end GuestBridge.Posix
