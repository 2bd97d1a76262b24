import GuestBridge.Bridge
import GuestBridge.Proofs.ExportNames

/-!
Libraries from loading to letting go, any number of them on one backend, under any requests in any
order. What a run asks of the backend is booked by library, so that libraries that got the same
handle are told apart. Each library has one life: attempts to load that fail, the load, lookups
through its handle, and one release.
-/
namespace GuestBridge

/-- The libraries of a backend, numbered in the order of their loading. One that was let go leaves
its place empty. -/
structure LibraryShelf (state : Type) where
  held : List (Option NativeLibrary)
  machine : Machine (Recording state)

inductive LibraryRequest (state : Type) where
  | load (name : Bytes)
  /-- Loads through a bridge. Apart from its backend, bridge and session are arbitrary. -/
  | loadThrough (session : Session (Recording state)) (path : String)
  | find (number : Nat) (wanted : ExportRequest)
  | require (number : Nat) (wanted : ExportRequest)
  /-- Frees a library and then lets it go, which frees it if it is not freed. -/
  | free (number : Nat)
  | drop (number : Nat)

namespace LibraryRequest

variable {state : Type}

/-- The path that a library is to be loaded from. A name that is not text gives none. -/
def path? : LibraryRequest state → Option String
  | load name => String.fromUTF8? ⟨name.toArray⟩
  | loadThrough _ path => some path
  | find .. | require .. | free _ | drop _ => none

/-- The library that a request is about, if it has to be there. -/
def number? : LibraryRequest state → Option Nat
  | load _ | loadThrough .. => none
  | find number _ | require number _ | free number | drop number => some number

end LibraryRequest

inductive LibraryAnswer where
  | loaded (library : NativeLibrary)
  | address (found : Option UInt64)
  | refused (fault : Fault)
  | gone
  | notHeld

namespace LibraryShelf

open NativeLibrary

variable {state : Type}

def calls (shelf : LibraryShelf state) : List BackendCall := shelf.machine.own.calls

/-- Puts what was loaded behind what is held. -/
def shelve (shelf : LibraryShelf state) :
    Except Fault NativeLibrary × Machine (Recording state) → LibraryAnswer × LibraryShelf state
  | (.ok library, machine) => (.loaded library, ⟨shelf.held ++ [some library], machine⟩)
  | (.error fault, machine) => (.refused fault, { shelf with machine })

/-- Does something with a library if it is still held. -/
def withHeld (shelf : LibraryShelf state) (number : Nat)
    (use : NativeLibrary → LibraryAnswer × LibraryShelf state) :
    LibraryAnswer × LibraryShelf state :=
  match shelf.held[number]? with
  | some (some library) => use library
  | _ => (.notHeld, shelf)

/-- Closes a library, whose place is then empty. -/
def letGo (shelf : LibraryShelf state) (number : Nat)
    (closing : StateM (Machine (Recording state)) NativeLibrary) :
    LibraryAnswer × LibraryShelf state :=
  (.gone, ⟨shelf.held.set number none, (closing.run shelf.machine).2⟩)

def respond (backend : Backend state) (shelf : LibraryShelf state) :
    LibraryRequest state → LibraryAnswer × LibraryShelf state
  | .load name =>
    let loaded := (loadNamed backend.recorded name).run shelf.machine
    shelf.shelve (loaded.1.mapError .library, loaded.2)
  | .loadThrough session path =>
    let loaded := (Bridge.loadLibrary path).run
      { bridge := { session.bridge with backend := backend.recorded }
        world := World.machinePart.set shelf.machine session.world }
    shelf.shelve (loaded.1, World.machinePart.get loaded.2.world)
  | .find number wanted =>
    shelf.withHeld number fun library =>
      let found := (library.export? backend.recorded wanted).run shelf.machine
      (.address found.1, { shelf with machine := found.2 })
  | .require number wanted =>
    shelf.withHeld number fun library =>
      match (library.requireExport backend.recorded wanted).run shelf.machine with
      | (.ok address, machine) => (.address (some address), { shelf with machine })
      | (.error fault, machine) => (.refused (.library fault), { shelf with machine })
  | .free number =>
    shelf.withHeld number fun library =>
      shelf.letGo number do (← library.free backend.recorded).free backend.recorded
  | .drop number =>
    shelf.withHeld number fun library => shelf.letGo number (library.free backend.recorded)

def after (backend : Backend state) (shelf : LibraryShelf state)
    (history : List (LibraryRequest state)) : LibraryShelf state :=
  history.foldl (fun shelf request => (shelf.respond backend request).2) shelf

/-- The library that a request is about; for a load the one that it would add. -/
def number (shelf : LibraryShelf state) (request : LibraryRequest state) : Nat :=
  request.number?.getD shelf.held.length

/-- The calls of a run, each with the library that the request was about. -/
def ledger (backend : Backend state) :
    LibraryShelf state → List (LibraryRequest state) → List (Nat × BackendCall)
  | _, [] => []
  | shelf, request :: rest =>
    let later := (shelf.respond backend request).2
    (later.calls.drop shelf.calls.length).map (shelf.number request, ·) ++ later.ledger backend rest

/-- What may come of a request: the answer, the calls of the backend that it takes, and what is held
afterwards. -/
inductive Turn (shelf : LibraryShelf state) :
    LibraryRequest state → LibraryAnswer → List BackendCall → List (Option NativeLibrary) → Prop
    where
  | notText {name : Bytes} (invalid : String.fromUTF8? ⟨name.toArray⟩ = none) :
      Turn shelf (.load name) (.refused (.library (.invalidPath (Text.quotedName name)))) []
        shelf.held
  | unloaded {request : LibraryRequest state} {path : String} (loads : request.path? = some path)
      (fault : LoadFault) :
      Turn shelf request (.refused (.library fault)) [.load path none] shelf.held
  | loaded {request : LibraryRequest state} {path : String} (loads : request.path? = some path)
      (handle : LibraryHandle) :
      Turn shelf request (.loaded ⟨handle, path, false⟩) [.load path (some handle)]
        (shelf.held ++ [some ⟨handle, path, false⟩])
  | lookedUp {request : LibraryRequest state} {number : Nat} {wanted : ExportRequest}
      {library : NativeLibrary}
      (asks : request = .find number wanted ∨ request = .require number wanted)
      (here : shelf.held[number]? = some (some library)) (answer : LibraryAnswer)
      (names : List String) :
      Turn shelf request answer (names.map (.resolve library.handle)) shelf.held
  | freed {request : LibraryRequest state} {number : Nat} {library : NativeLibrary}
      (lets : request = .free number ∨ request = .drop number)
      (here : shelf.held[number]? = some (some library)) :
      Turn shelf request .gone [.free library.handle] (shelf.held.set number none)
  | notHeld {request : LibraryRequest state} {number : Nat} (asks : request.number? = some number)
      (missing : ∀ library, shelf.held[number]? ≠ some (some library)) :
      Turn shelf request .notHeld [] shelf.held

end LibraryShelf

namespace NativeLibrary

variable {state : Type}

/-- Loading makes one call, and what it got is not freed. -/
theorem run_load_recorded (backend : Backend state) (path : String)
    (machine : Machine (Recording state)) :
    ∃ got : Except LoadFault LibraryHandle,
      let loaded := (load backend.recorded path).run machine
      loaded.1 = got.map (⟨·, path, false⟩) ∧
        loaded.2.own.calls = machine.own.calls ++ [.load path got.toOption] := by
  rcases asked : (backend.loadLibrary path).run (Backend.withoutCalls.get machine) with
    ⟨got, later⟩
  have ran : (backend.recorded.loadLibrary path).run machine =
      (got, Backend.note (.load path got.toOption) (Backend.withoutCalls.set later machine)) := by
    change (_, _) = (_, _)
    simp only [asked]
  refine ⟨got, ?_⟩
  simp only [load, Action.run_bind, ran]
  cases got <;> exact ⟨rfl, rfl⟩

theorem fromUTF8?_toUTF8 (path : String) : String.fromUTF8? path.toUTF8 = some path :=
  dif_pos path.isValidUTF8

/-- A path that is text is asked for as it is. -/
theorem loadNamed_toUTF8 (backend : Backend state) (path : String) :
    loadNamed backend path.toUTF8.data.toList = load backend path := by
  rw [loadNamed, Array.toArray_toList, fromUTF8?_toUTF8]

theorem run_requireExport (library : NativeLibrary) (backend : Backend state)
    (wanted : ExportRequest) (machine : Machine state) :
    (library.requireExport backend wanted).run machine =
      let found := (library.export? backend wanted).run machine
      (match found.1 with
        | some address => .ok address
        | none => .error (.symbolNotFound wanted.name library.path), found.2) := by
  have found : (Action.ofState (library.export? backend wanted)).run machine =
      let found := (library.export? backend wanted).run machine
      ((.ok found.1, found.2) : Except LoadFault _ × _) := rfl
  rw [requireExport, Action.run_bind, found]
  rcases (library.export? backend wanted).run machine with ⟨- | address, later⟩ <;> rfl

theorem run_free_of_unfreed {library : NativeLibrary} (unfreed : library.freed = false)
    (backend : Backend state) (machine : Machine state) :
    (library.free backend).run machine =
      ({ library with freed := true }, backend.freeLibrary library.handle machine) := by
  rw [free, unfreed]
  rfl

theorem run_free_of_freed {library : NativeLibrary} (freed : library.freed = true)
    (backend : Backend state) (machine : Machine state) :
    (library.free backend).run machine = (library, machine) := by
  rw [free, freed]
  rfl

end NativeLibrary

namespace LibraryShelf

open NativeLibrary

variable {state : Type} {backend : Backend state} {shelf : LibraryShelf state}

theorem respond_loadThrough (session : Session (Recording state)) (path : String) :
    shelf.respond backend (.loadThrough session path) =
      shelf.respond backend (.load path.toUTF8.data.toList) := by
  simp only [respond, loadNamed_toUTF8]
  rfl

theorem withHeld_of_held {number : Nat} {library : NativeLibrary}
    (here : shelf.held[number]? = some (some library))
    (use : NativeLibrary → LibraryAnswer × LibraryShelf state) :
    shelf.withHeld number use = use library := by
  rw [withHeld, here]

theorem withHeld_of_missing {number : Nat}
    (missing : ∀ library, shelf.held[number]? ≠ some (some library))
    (use : NativeLibrary → LibraryAnswer × LibraryShelf state) :
    shelf.withHeld number use = (.notHeld, shelf) := by
  unfold withHeld
  split
  case h_1 library here => exact absurd here (missing library)
  case h_2 => rfl

/-- Every library that is held can still be freed. -/
def Unfreed (held : List (Option NativeLibrary)) : Prop :=
  ∀ library, some library ∈ held → library.freed = false

/-- The answer and the calls of a request are those of one turn. -/
def Turns (shelf : LibraryShelf state) (request : LibraryRequest state)
    (answered : LibraryAnswer × LibraryShelf state) : Prop :=
  ∃ calls, answered.2.calls = shelf.calls ++ calls ∧
    Turn shelf request answered.1 calls answered.2.held

theorem turns_of_path {name : Bytes} {path : String}
    (text : String.fromUTF8? ⟨name.toArray⟩ = some path) {request : LibraryRequest state}
    (loads : request.path? = some path) :
    Turns shelf request (shelf.respond backend (.load name)) := by
  obtain ⟨got, outcome, calls⟩ := run_load_recorded backend path shelf.machine
  refine ⟨[.load path got.toOption], ?_⟩
  rw [respond, loadNamed, text]
  dsimp only at outcome ⊢
  rw [outcome]
  cases got with
  | ok handle => exact ⟨calls, .loaded loads handle⟩
  | error fault => exact ⟨calls, .unloaded loads fault⟩

theorem turns_lookUp {request : LibraryRequest state} {number : Nat} {wanted : ExportRequest}
    (asks : request = .find number wanted ∨ request = .require number wanted)
    {library : NativeLibrary} (here : shelf.held[number]? = some (some library)) :
    Turns shelf request (shelf.respond backend request) := by
  obtain ⟨names, lookup⟩ :=
    exists_lookup backend.recorded library.handle wanted shelf.machine
  refine ⟨names.map (.resolve library.handle), ?_⟩
  have calls := lookup.calls_eq
  have turn (answer : LibraryAnswer) := Turn.lookedUp asks here answer names
  rcases asks with rfl | rfl
  · rw [respond, withHeld_of_held here]
    exact ⟨calls, turn _⟩
  · rw [respond, withHeld_of_held here, run_requireExport, export?]
    rcases found : (exportAt backend.recorded library.handle wanted).run shelf.machine with
      ⟨- | address, later⟩
    all_goals
      rw [found] at calls
      exact ⟨calls, turn _⟩

/-- The call is made once also where a library is freed and then let go. -/
theorem turns_letGo (unfreed : Unfreed shelf.held) {request : LibraryRequest state} {number : Nat}
    (lets : request = .free number ∨ request = .drop number) {library : NativeLibrary}
    (here : shelf.held[number]? = some (some library)) :
    Turns shelf request (shelf.respond backend request) := by
  have fresh := unfreed library (List.mem_of_getElem? here)
  have once := run_free_of_unfreed fresh backend.recorded shelf.machine
  have twice : (do (← library.free backend.recorded).free backend.recorded).run shelf.machine =
      (⟨library.handle, library.path, true⟩,
        backend.recorded.freeLibrary library.handle shelf.machine) := by
    rw [StateT.run_bind, once]
    exact run_free_of_freed rfl ..
  have turn := Turn.freed lets here
  refine ⟨[.free library.handle], ?_⟩
  rcases lets with rfl | rfl
  · rw [respond, withHeld_of_held here, letGo, twice]
    exact ⟨rfl, turn⟩
  · rw [respond, withHeld_of_held here, letGo, once]
    exact ⟨rfl, turn⟩

/-- One request, from a shelf on which nothing is freed. -/
theorem turns_respond (unfreed : Unfreed shelf.held) (backend : Backend state)
    (request : LibraryRequest state) : Turns shelf request (shelf.respond backend request) := by
  cases asks : request.number? with
  | none =>
    cases request with
    | load name =>
      cases text : String.fromUTF8? ⟨name.toArray⟩ with
      | none =>
        refine ⟨[], ?_⟩
        rw [respond, loadNamed, text]
        exact ⟨(List.append_nil _).symm, .notText text⟩
      | some path => exact turns_of_path text text
    | loadThrough session path =>
      rw [respond_loadThrough]
      exact turns_of_path (fromUTF8?_toUTF8 path) rfl
    | find | require | free | drop => cases asks
  | some number =>
    by_cases held : ∃ library, shelf.held[number]? = some (some library)
    · obtain ⟨library, here⟩ := held
      cases request with
      | load | loadThrough => cases asks
      | find =>
        obtain rfl := Option.some.inj asks
        exact turns_lookUp (.inl rfl) here
      | require =>
        obtain rfl := Option.some.inj asks
        exact turns_lookUp (.inr rfl) here
      | free =>
        obtain rfl := Option.some.inj asks
        exact turns_letGo unfreed (.inl rfl) here
      | drop =>
        obtain rfl := Option.some.inj asks
        exact turns_letGo unfreed (.inr rfl) here
    · have missing (library : NativeLibrary) : shelf.held[number]? ≠ some (some library) :=
        fun here => held ⟨library, here⟩
      refine ⟨[], ?_⟩
      have answered : shelf.respond backend request = (.notHeld, shelf) := by
        cases request with
        | load | loadThrough => cases asks
        | find | require | free | drop =>
          obtain rfl := Option.some.inj asks
          exact withHeld_of_missing missing _
      rw [answered]
      exact ⟨(List.append_nil _).symm, .notHeld asks missing⟩

theorem Turn.unfreed {request : LibraryRequest state} {answer : LibraryAnswer}
    {calls : List BackendCall} {held : List (Option NativeLibrary)}
    (turn : Turn shelf request answer calls held) (unfreed : Unfreed shelf.held) :
    Unfreed held := by
  cases turn with
  | notText | unloaded | lookedUp | notHeld => exact unfreed
  | loaded loads handle =>
    intro library member
    obtain old | new := List.mem_append.1 member
    · exact unfreed library old
    · obtain rfl := Option.some.inj (List.mem_singleton.1 new)
      rfl
  | freed lets here =>
    intro library member
    exact unfreed library ((List.mem_or_eq_of_mem_set member).resolve_right (by simp))

/-- The entries of one library. -/
def booked (number : Nat) (ledger : List (Nat × BackendCall)) : List BackendCall :=
  (ledger.filter (·.1 = number)).map Prod.snd

theorem booked_append (number : Nat) (past more : List (Nat × BackendCall)) :
    booked number (past ++ more) = booked number past ++ booked number more := by
  simp [booked]

theorem booked_same (number : Nat) (calls : List BackendCall) :
    booked number (calls.map (number, ·)) = calls := by
  simp [booked, List.filter_map, Function.comp_def]

theorem booked_ne {number other : Nat} (apart : other ≠ number) (calls : List BackendCall) :
    booked number (calls.map (other, ·)) = [] := by
  simp [booked, apart]

/-- What is asked of the backend for one library, by what there is in its place: nothing yet, the
library, or nothing any more. -/
inductive Life : Option (Option NativeLibrary) → List BackendCall → Prop where
  | unloaded (attempts : List String) : Life none (attempts.map (.load · none))
  | held (attempts : List String) (path : String) (handle : LibraryHandle) (names : List String) :
      Life (some (some ⟨handle, path, false⟩))
        (attempts.map (.load · none) ++ .load path (some handle) :: names.map (.resolve handle))
  | gone (attempts : List String) (path : String) (handle : LibraryHandle) (names : List String) :
      Life (some none)
        (attempts.map (.load · none) ++ .load path (some handle) ::
          (names.map (.resolve handle) ++ [.free handle]))

theorem Life.unload {calls : List BackendCall} (life : Life none calls) (path : String) :
    Life none (calls ++ [.load path none]) := by
  cases life with
  | unloaded attempts => simpa using Life.unloaded (attempts ++ [path])

theorem Life.load {calls : List BackendCall} (life : Life none calls) (path : String)
    (handle : LibraryHandle) :
    Life (some (some ⟨handle, path, false⟩)) (calls ++ [.load path (some handle)]) := by
  cases life with
  | unloaded attempts => exact .held attempts path handle []

theorem Life.lookUp {library : NativeLibrary} {calls : List BackendCall}
    (life : Life (some (some library)) calls) (more : List String) :
    Life (some (some library)) (calls ++ more.map (.resolve library.handle)) := by
  cases life with
  | held attempts path handle names => simpa using Life.held attempts path handle (names ++ more)

theorem Life.free {library : NativeLibrary} {calls : List BackendCall}
    (life : Life (some (some library)) calls) :
    Life (some none) (calls ++ [.free library.handle]) := by
  cases life with
  | held attempts path handle names => simpa using Life.gone attempts path handle names

theorem number_of_loads {request : LibraryRequest state} {path : String}
    (loads : request.path? = some path) : shelf.number request = shelf.held.length := by
  cases request with
  | load | loadThrough => rfl
  | find | require | free | drop => cases loads

section Turn

variable {request : LibraryRequest state} {answer : LibraryAnswer} {calls : List BackendCall}
  {held : List (Option NativeLibrary)}

/-- A turn takes the life of its own library one step further. -/
theorem Turn.life (turn : Turn shelf request answer calls held) {past : List BackendCall}
    (life : Life shelf.held[shelf.number request]? past) :
    Life held[shelf.number request]? (past ++ calls) := by
  cases turn with
  | notText | notHeld => rwa [List.append_nil]
  | unloaded loads fault =>
    rw [number_of_loads loads, List.getElem?_length] at life ⊢
    exact life.unload _
  | loaded loads handle =>
    rw [number_of_loads loads, List.getElem?_length] at life
    rw [number_of_loads loads, List.getElem?_concat_length]
    exact life.load _ handle
  | @lookedUp _ number _ _ asks here _ names =>
    have own : shelf.number request = number := by
      rcases asks with rfl | rfl <;> rfl
    rw [own, here] at life ⊢
    exact life.lookUp names
  | @freed _ number _ lets here =>
    have own : shelf.number request = number := by
      rcases lets with rfl | rfl <;> rfl
    have inside := (List.getElem?_eq_some_iff.1 here).1
    rw [own, here] at life
    rw [own, List.getElem?_set_self inside]
    exact life.free

theorem Turn.getElem?_other (turn : Turn shelf request answer calls held) {other : Nat}
    (apart : shelf.number request ≠ other) : held[other]? = shelf.held[other]? := by
  cases turn with
  | notText | notHeld | unloaded | lookedUp => rfl
  | loaded loads handle =>
    rw [number_of_loads loads] at apart
    obtain beyond | inside := Nat.lt_or_gt_of_ne apart
    · rw [List.getElem?_eq_none (Nat.le_of_lt beyond), List.getElem?_eq_none]
      rw [List.length_append]
      exact beyond
    · exact List.getElem?_append_left inside
  | @freed _ number _ lets here =>
    have own : shelf.number request = number := by
      rcases lets with rfl | rfl <;> rfl
    exact List.getElem?_set_ne (own ▸ apart)

end Turn

/-- The ledger of each library is its life so far. -/
def Balanced (held : List (Option NativeLibrary)) (ledger : List (Nat × BackendCall)) : Prop :=
  ∀ number, Life held[number]? (booked number ledger)

theorem balanced_nil : Balanced [] [] :=
  fun _ => .unloaded []

theorem Balanced.turn {past : List (Nat × BackendCall)} (balanced : Balanced shelf.held past)
    {request : LibraryRequest state} {answer : LibraryAnswer} {calls : List BackendCall}
    {held : List (Option NativeLibrary)} (turn : Turn shelf request answer calls held) :
    Balanced held (past ++ calls.map (shelf.number request, ·)) := by
  intro number
  have life := balanced number
  rw [booked_append]
  by_cases own : shelf.number request = number
  · subst own
    rw [booked_same]
    exact turn.life life
  · rw [booked_ne own, List.append_nil, turn.getElem?_other own]
    exact life

/-- What every run keeps: nothing on the shelf is freed, the ledger has all calls, and each library
has its life in it. -/
theorem run (backend : Backend state) (history : List (LibraryRequest state))
    (unfreed : Unfreed shelf.held) {past : List (Nat × BackendCall)}
    (balanced : Balanced shelf.held past) :
    let now := shelf.after backend history
    let ledger := shelf.ledger backend history
    Unfreed now.held ∧ now.calls = shelf.calls ++ ledger.map Prod.snd ∧
      Balanced now.held (past ++ ledger) := by
  induction history generalizing shelf past with
  | nil => simpa [after, ledger] using ⟨unfreed, balanced⟩
  | cons request rest ih =>
    obtain ⟨calls, grown, turn⟩ := turns_respond unfreed backend request
    obtain ⟨unfreed', calls', balanced'⟩ := ih (turn.unfreed unfreed) (balanced.turn turn)
    have entry : shelf.ledger backend (request :: rest) =
        calls.map (shelf.number request, ·) ++
          (shelf.respond backend request).2.ledger backend rest := by
      rw [ledger, grown, List.drop_left]
    rw [List.append_assoc, ← entry] at balanced'
    refine ⟨unfreed', ?_, balanced'⟩
    have unbooked : (calls.map (shelf.number request, ·)).map Prod.snd = calls := by
      rw [List.map_map]
      exact List.map_id calls
    rw [entry, List.map_append, unbooked, ← List.append_assoc, ← grown]
    exact calls'

/-- In every run each library that is loaded is released once, when it is freed or dropped, through
the handle of its own load. Until then it stays as it was loaded, whatever is looked up in it;
afterwards nothing is looked up in it any more; and attempts to load that fail release nothing. The
ledger has every call that was made, and the next request is a turn as well. -/
theorem released_exactly_once (backend : Backend state) (machine : Machine (Recording state))
    (history : List (LibraryRequest state)) :
    let start : LibraryShelf state := ⟨[], machine⟩
    let now := start.after backend history
    let ledger := start.ledger backend history
    now.calls = start.calls ++ ledger.map Prod.snd ∧
      (∀ number, Life now.held[number]? (booked number ledger)) ∧
      ∀ request, ∃ calls,
        let answered := now.respond backend request
        answered.2.calls = now.calls ++ calls ∧
          Turn now request answered.1 calls answered.2.held := by
  intro start now ledger
  have none_held : Unfreed start.held := fun _ held => nomatch held
  obtain ⟨unfreed, calls, balanced⟩ := run backend history none_held balanced_nil
  exact ⟨calls, balanced, fun request => turns_respond unfreed backend request⟩

example :
    let backend := Backend.scripted { name := "scripted" }
    let script : Script := { installed := [("demo", ["add"])] }
    let start : LibraryShelf Script := ⟨[], { own := { own := script }, system := {} }⟩
    start.ledger backend [.load "demo".toUTF8.data.toList, .load [255], .find 0 ⟨"none", 8⟩,
        .load "demo".toUTF8.data.toList, .free 0, .require 0 ⟨"add", 8⟩, .drop 0, .drop 1] =
      [(0, .load "demo" (some ⟨4096⟩)), (0, .resolve ⟨4096⟩ "none"),
        (1, .load "demo" (some ⟨8192⟩)), (0, .free ⟨4096⟩), (1, .free ⟨8192⟩)] := by
  decide +kernel

end LibraryShelf

end GuestBridge
