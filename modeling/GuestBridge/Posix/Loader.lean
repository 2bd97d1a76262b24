import GuestBridge.Posix.Loader.Object

/-!
The dynamic loader: all objects in memory, as a rule in the order in which they came there. What a
program sees through an object is the object and what it needs, nearest first. An object goes when
nobody who stays needs it any more.
-/
namespace GuestBridge.Posix

structure Loader where
  objects : List LoadedObject
  next : Nat
  threads : ThreadSpace := {}
  /-- Why the last path that was tried led nowhere. -/
  reason? : Option String := none
  /-- Directories that were looked for and are known not to be there. -/
  absent : List String := []

/-- What is reached step by step, nearest first. -/
def reach (steps : LoadedId → List LoadedId) : Nat → (queue seen : List LoadedId) → List LoadedId
  | 0, _, seen => seen
  | _, [], seen => seen
  | fuel + 1, id :: queue, seen =>
    let new := ((steps id).filter (!seen.contains ·)).eraseDups
    reach steps fuel (queue ++ new) (seen ++ new)

namespace Loader

def presentPath (library : SystemLibrary) : String :=
  if library = .program ∨ library = .kernel then library.name
  else if library = .loader then "/lib64/" ++ library.name
  else SystemLibrary.directory ++ library.name

def seenByProgram : List LoadedId :=
  (SystemLibrary.present.zipIdx.filter (·.1 ≠ .kernel)).map fun (_, index) => ⟨index⟩

def neededFromStart (id : LoadedId) : List LoadedId :=
  match SystemLibrary.present[id.index]? with
  | some library =>
    library.needed.filterMap fun name =>
      (SystemLibrary.present.findIdx? (·.name == name)).map (⟨·⟩)
  | none => []

def initial : Loader where
  objects := SystemLibrary.present.zipIdx.map fun (library, index) =>
    let id : LoadedId := ⟨index⟩
    { id
      origin := .library library
      path := presentPath library
      names := [library.name]
      needs := neededFromStart id
      scope? := some (
        if library = .program then seenByProgram
        else reach neededFromStart (SystemLibrary.present.length + 1) [id] [id])
      stays := true }
  next := SystemLibrary.present.length

instance : Inhabited Loader := ⟨initial⟩

def program : LoadedId := ⟨0⟩

def object? (loader : Loader) (id : LoadedId) : Option LoadedObject :=
  loader.objects.find? (·.id == id)

def change (loader : Loader) (id : LoadedId) (update : LoadedObject → LoadedObject) : Loader :=
  { loader with
    objects := loader.objects.map fun loaded => if loaded.id = id then update loaded else loaded }

def add (loader : Loader) (object : LoadedId → LoadedObject) : LoadedId × Loader :=
  let id : LoadedId := ⟨loader.next⟩
  (id, { loader with objects := loader.objects ++ [object id], next := loader.next + 1 })

/-- Puts an object right before another one. Of two that answer to a name the earlier one counts. -/
def moveBefore (loader : Loader) (id other : LoadedId) : Loader :=
  let (moved, rest) := loader.objects.partition (·.id == id)
  { loader with
    objects := rest.flatMap fun loaded =>
      if loaded.id = other then moved ++ [loaded] else [loaded] }

def needs (loader : Loader) (id : LoadedId) : List LoadedId :=
  ((loader.object? id).map (·.needs)).getD []

def scope (loader : Loader) (id : LoadedId) : List LoadedObject :=
  (((loader.object? id).bind (·.scope?)).getD []).filterMap loader.object?

/-- The objects that stay: those that have to, those that are open, and what is seen through these
or what they use. -/
def kept (loader : Loader) : List LoadedId :=
  let roots := (loader.objects.filter fun loaded => loaded.stays || 0 < loaded.openings).map (·.id)
  let steps (id : LoadedId) :=
    match loader.object? id with
    | some loaded => loaded.needs ++ loaded.scope?.getD [] ++ loaded.uses
    | none => []
  reach steps (loader.objects.length + 1) roots roots

def opened (loader : Loader) (id : LoadedId) : Loader :=
  loader.change id fun loaded => { loaded with openings := loaded.openings + 1 }

def without (loader : Loader) (goes : LoadedObject → Bool) : Loader :=
  { loader with
    objects := loader.objects.filter (!goes ·)
    threads := loader.threads.release ((loader.objects.filter goes).filterMap (·.threadBlock?)) }

/-- Settles what is seen through objects that have not been opened by themselves and that were seen
through some that went: no more than what they depend on at once. -/
def settled (loader : Loader) (gone : List LoadedObject) : Loader :=
  let wasSeen (id : LoadedId) : Bool := gone.any fun loaded => (loaded.scope?.getD []).contains id
  { loader with
    objects := loader.objects.map fun loaded =>
      if wasSeen loaded.id then
        { loaded with scope? := loaded.scope?.or (some (loaded.id :: loaded.needs)) }
      else loaded }

/-- Closes an object once. If it was open no more than once, what is not kept then goes. -/
def close (loader : Loader) (id : LoadedId) : Loader :=
  match loader.object? id with
  | some loaded =>
    if loaded.stays then loader
    else
      let closed := loader.change id fun loaded => { loaded with openings := loaded.openings - 1 }
      if 1 < loaded.openings then closed
      else
        let kept := closed.kept
        let goes (loaded : LoadedObject) : Bool := !kept.contains loaded.id
        (closed.without goes).settled (closed.objects.filter goes)
  | none => loader

/-- Where a definition of a name that was found really is. What can be there only once is where it
was found first, and its object stays from then on. -/
def unified (loader : Loader) (name : Bytes) (definition : Definition) : LoadedId × Loader :=
  if !definition.isUnique then (definition.object, loader)
  else
    match loader.objects.find? (·.uniqueNames.contains name) with
    | some holder => (holder.id, loader)
    | none =>
      (definition.object, loader.change definition.object fun loaded =>
        { loaded with stays := true, uniqueNames := loaded.uniqueNames ++ [name] })

/-- Threads have their memory for an object from their start from now on, if that can be. -/
def fixThreadPlace? (loader : Loader) (id : LoadedId) (isOptional : Bool) : Option Loader :=
  match loader.object? id with
  | some loaded =>
    match loaded.object.ofThreads?, loaded.threadPlace with
    | some segment, .undecided =>
      (loader.threads.place? segment isOptional).map fun threads =>
        { loader.change id ({ · with threadPlace := .fixed threads.taken }) with threads }
    | some _, .onDemand => none
    | _, _ => some loader
  | none => some loader

/-- Threads get their memory for an object when they ask for it, unless that is settled. -/
def useThreadPlace (loader : Loader) (id : LoadedId) : Loader :=
  loader.change id fun loaded =>
    if loaded.threadPlace = .undecided then { loaded with threadPlace := .onDemand } else loaded

end Loader

end GuestBridge.Posix
