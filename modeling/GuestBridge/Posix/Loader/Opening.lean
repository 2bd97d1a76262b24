import GuestBridge.Posix.Loader.Linking
import GuestBridge.Posix.Loader.Search

/-!
Opening shared objects and looking up their symbols. An object that is in memory already is opened
once more; any other is loaded with all that it needs. If something is wrong with one of them,
nothing has changed.
-/
namespace GuestBridge.Posix

open SharedObject

namespace Loader

def takeIn (system : System) (asker : Option LoadedId) (name : String) :
    Action Loader String LoadedId := do
  if let some loaded := (← get).objects.find? (·.answersTo system.content name) then
    modify (·.change loaded.id (·.called name))
    return loaded.id
  let located ← locate system asker name
  if let some loaded := (← get).objects.find? (·.origin == located.origin) then
    modify (·.change loaded.id (·.called name))
    return loaded.id
  let object ←
    match located.origin with
    | .library _ => pure {}
    | .file file =>
      Action.ofExcept ((SharedObject.read (system.content file)).mapError (name ++ ": " ++ ·))
  modifyGet fun loader =>
    loader.add fun id =>
      { id
        origin := located.origin
        path := located.path
        names := [name]
        object
        askedFor? := asker
        stays := object.dynamic.stays }

/-! ### The order of search

What is seen through a root is put in a row. What an object needs comes to the end of the row, but
what takes its place comes right before it.
-/

/-- An object in the row, and whether what it depends on is in the row too. -/
structure Place where
  object : LoadedId
  isDone : Bool := false

/-- The row behind an object whose dependencies are being taken in, what has been put right before
it, and what it depends on. -/
structure Surroundings where
  inFront : List LoadedId := []
  behind : List Place
  needs : List LoadedId := []

namespace Surroundings

def keeping (surroundings : Surroundings) (object : LoadedId) : Surroundings :=
  { surroundings with needs := surroundings.needs ++ [object] }

def needing (surroundings : Surroundings) (object : LoadedId) : Surroundings :=
  if surroundings.behind.any (·.object == object) then surroundings.keeping object
  else { surroundings.keeping object with behind := surroundings.behind ++ [{ object }] }

/-- Puts an object that takes another's place right before that one. It is not there earlier. -/
def preceded (surroundings : Surroundings) (object : LoadedId) : Surroundings where
  inFront := surroundings.inFront ++ [object]
  behind := surroundings.behind.filter (·.object ≠ object)
  needs := surroundings.needs ++ [object]

end Surroundings

/-- Takes in what an object depends on. What can be missing is passed over if it cannot be had. -/
def takeInDependency (system : System) (loaded : LoadedObject) (earlier : List LoadedId)
    (surroundings : Surroundings) (dependency : Dependency) :
    Action Loader String Surroundings := do
  let taking := takeIn system (some loaded.id) (expanded loaded (Text.decoded dependency.name))
  match ← taking.attempt with
  | .error text => if dependency.isOptional then return surroundings else throw text
  | .ok object =>
    if (earlier ++ surroundings.inFront).contains object then return surroundings.keeping object
    else if dependency.isFiltee then
      modify (·.moveBefore object loaded.id)
      return surroundings.preceded object
    else return surroundings.needing object

/-- Takes into memory what the objects in a row depend on, and answers the whole row. The objects in
front have been seen to. What is put down of objects that are not new stays as it is. -/
def gather (system : System) (firstNew : Nat) :
    Nat → (front : List LoadedId) → (row : List Place) → Action Loader String (List LoadedId)
  | 0, front, row => return front ++ row.map (·.object)
  | _, front, [] => return front
  | fuel + 1, front, place :: behind => do
    let loaded? := (← get).object? place.object
    match place.isDone, loaded? with
    | false, some loaded =>
      let surroundings ← (loaded.dependencies system.content).foldlM
        (takeInDependency system loaded (front ++ [place.object])) { behind }
      if firstNew ≤ place.object.index then
        modify (·.change place.object ({ · with needs := surroundings.needs.eraseDups }))
      gather system firstNew fuel front
        (surroundings.inFront.map ({ object := · }) ++ ⟨place.object, true⟩ ::
          surroundings.behind)
    | _, _ => gather system firstNew fuel (front ++ [place.object]) behind

def mostSteps (system : System) (loader : Loader) : Nat :=
  4 * (loader.objects.length + system.files.size + SystemLibrary.others.length + 1)

def prepare (system : System) (firstNew : Nat) (root : LoadedId) : Action Loader String Unit := do
  modify ({ · with reason? := none })
  let row ← gather system firstNew (mostSteps system (← get)) [] [{ object := root }]
  modify (·.change root ({ · with scope? := some row }))
  let loader ← get
  set (← Action.ofExcept (link system.content loader root
    (row.filter fun id => firstNew ≤ id.index)))

def openObject (system : System) (name : String) : Action Loader String LoadedId := do
  let firstNew := (← get).next
  let root ← takeIn system none name
  let isPrepared := (((← get).object? root).bind (·.scope?)).isSome
  if !isPrepared then prepare system firstNew root
  modify (·.opened root)
  return root

/-- The loader after something went wrong with an opening. New objects go, and none has to stay that
did not have to before. -/
def undone (before after : Loader) : Loader :=
  let remaining := after.without fun loaded => before.next ≤ loaded.id.index
  { remaining with
    objects := remaining.objects.map fun loaded =>
      { loaded with stays := (before.object? loaded.id).any (·.stays) } }

def load (system : System) (name : String) : Action Loader String LoadedId :=
  Action.make fun before =>
    match (openObject system name).run before with
    | (.ok id, after) => (.ok id, after)
    | (.error text, after) => (.error text, before.undone after)

/-- The address that a name stands for in objects. An object with something that can be there only
once stays from then on, and threads get memory for an object when they are asked for it. -/
def symbolIn (system : System) (scope : List LoadedObject) (name : Bytes) :
    StateM Loader (Option Nat) := do
  match (Request.newest name).lookUp system.content scope with
  | some definition =>
    let (owner, unified) := (← get).unified name definition
    set (if definition.isOfThread then unified.useThreadPlace owner else unified)
    return some definition.address
  | none => return none

end Loader

end GuestBridge.Posix
