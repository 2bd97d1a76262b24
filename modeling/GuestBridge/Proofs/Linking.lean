import GuestBridge.Native
import GuestBridge.Proofs.FirstMatches
import Mathlib.Data.List.Induction

/-!
Native functions linked against a registry that goes on changing. A link takes the last function
that was registered for each name by then, all or none, and what is registered later does not reach
it. Names are called by 16-bit positions: a name whose first position is beyond them is linked, and
cannot be called.
-/
namespace GuestBridge

namespace LinkedNatives

variable {state : Type} {registry : NativeRegistry state} {declared : List String}
  {linked : LinkedNatives state} {name : String} {position : UInt16} {fault : Fault}

theorem link_eq : link registry declared =
    (declared.mapM (looked registry.function? unsatisfied)).map fun functions =>
      ⟨declared, functions⟩ := by
  have opened : link registry declared =
      declared.mapM (looked registry.function? unsatisfied) >>=
        fun functions => Except.ok ⟨declared, functions⟩ := by
    unfold link
    congr 2
    funext name
    cases found : registry.function? name <;> simp [looked, found]
  rw [opened]
  cases declared.mapM (looked registry.function? unsatisfied) <;> rfl

theorem link_eq_error_iff :
    link registry declared = .error fault ↔
      ∃ name, FirstOf declared (registry.function? · = none) name ∧ fault = unsatisfied name := by
  rw [← mapM_looked_eq_error_iff, link_eq]
  cases declared.mapM (looked registry.function? unsatisfied) <;> simp [Except.map]

/-- Each name is beside the function that it had. -/
theorem beside_of_link (ok : link registry declared = .ok linked) :
    linked.names = declared ∧ declared.map registry.function? = linked.functions.map some := by
  rw [link_eq] at ok
  cases passed : declared.mapM (looked registry.function? unsatisfied) with
  | error failure => simp [passed, Except.map] at ok
  | ok functions =>
    simp only [passed, Except.map, Except.ok.injEq] at ok
    subst ok
    exact ⟨rfl, map_of_mapM_looked passed⟩

theorem length_of_link (ok : link registry declared = .ok linked) :
    linked.functions.length = declared.length := by
  have lengths := congrArg List.length (beside_of_link ok).2
  simpa using lengths.symm

/-- Positions are those of the names, as far as 16 bits go. -/
theorem indexOf?_eq_some_iff :
    linked.indexOf? name = some position ↔ linked.names.idxOf? name = some position.toNat := by
  unfold indexOf?
  cases linked.names.idxOf? name with
  | none => simp
  | some index =>
    by_cases fits : index < UInt16.size
    · simp [fits, UInt16.ofNat_eq_iff_mod_eq_toNat, Nat.mod_eq_of_lt fits]
    · have small := position.toNat_lt_size
      simp only [if_neg fits, reduceCtorEq, Option.some.injEq, false_iff]
      rintro rfl
      exact fits small

theorem indexOf?_eq_none_iff :
    linked.indexOf? name = none ↔
      ∀ index, linked.names.idxOf? name = some index → UInt16.size ≤ index := by
  unfold indexOf?
  cases linked.names.idxOf? name with
  | none => simp
  | some index => simp

/-- A position calls the function that its name had. -/
theorem call_eq (ok : link registry declared = .ok linked)
    (named : declared[position.toNat]? = some name) :
    ∃ function, registry.function? name = some function ∧
      ∀ arguments, linked.call position arguments = function.handler arguments := by
  have beside := congrArg (·[position.toNat]?) (beside_of_link ok).2
  simp only [List.getElem?_map, named, Option.map_some] at beside
  obtain ⟨function, bound, same⟩ := Option.map_eq_some_iff.1 beside.symm
  refine ⟨function, same.symm, fun arguments => ?_⟩
  rw [call, bound]

theorem call_of_beyond (beyond : linked.functions.length ≤ position.toNat)
    (arguments : List Value) :
    linked.call position arguments =
      throw (unsatisfied ("native #" ++ toString position.toNat)) := by
  rw [call, List.getElem?_eq_none beyond]

theorem idxOf?_of_mem (listed : name ∈ declared) :
    declared.idxOf? name = some (declared.idxOf name) := by
  rw [List.idxOf_eq_getD_idxOf?]
  cases found : declared.idxOf? name with
  | none => exact absurd listed (List.idxOf?_eq_none_iff.1 found)
  | some index => rfl

theorem indexOf?_of_far (ok : link registry declared = .ok linked) (listed : name ∈ declared)
    (far : UInt16.size ≤ declared.idxOf name) : linked.indexOf? name = none := by
  rw [indexOf?_eq_none_iff, (beside_of_link ok).1, idxOf?_of_mem listed]
  rintro _ ⟨⟩
  exact far

/-- A linked name is called by its first position if 16 bits can hold that, and if they cannot it
has no position and no position calls it. Up to 65536 names all have positions. -/
theorem linked_reached (registry : NativeRegistry state) (declared : List String)
    (linked : LinkedNatives state) (ok : link registry declared = .ok linked) (name : String)
    (listed : name ∈ declared) :
    ∃ function, registry.function? name = some function ∧
      (declared.idxOf name < 65536 → ∃ position, linked.indexOf? name = some position ∧
        position.toNat = declared.idxOf name ∧
        ∀ arguments, linked.call position arguments = function.handler arguments) ∧
      (65536 ≤ declared.idxOf name → linked.indexOf? name = none ∧
        ∀ position : UInt16, declared[position.toNat]? ≠ some name) := by
  have index := idxOf?_of_mem listed
  obtain ⟨names, beside⟩ := beside_of_link ok
  have among : registry.function? name ∈ linked.functions.map some :=
    beside ▸ List.mem_map_of_mem listed
  obtain ⟨function, -, found⟩ := List.mem_map.1 among
  refine ⟨function, found.symm, fun fits => ?_, fun far =>
    ⟨indexOf?_of_far ok listed far, fun position same => ?_⟩⟩
  · have number : (UInt16.ofNat (declared.idxOf name)).toNat = declared.idxOf name :=
      UInt16.toNat_ofNat_of_lt fits
    have named : declared[(UInt16.ofNat (declared.idxOf name)).toNat]? = some name := by
      rw [number, List.getElem?_idxOf listed]
    obtain ⟨own, ownFound, calls⟩ := call_eq ok named
    obtain rfl : function = own := Option.some.inj (found.trans ownFound)
    refine ⟨UInt16.ofNat (declared.idxOf name), ?_, number, calls⟩
    rw [indexOf?_eq_some_iff, names, index, number]
  · obtain ⟨_, _, before⟩ := List.idxOf?_eq_some_iff.1 index
    obtain ⟨_, there⟩ := List.getElem?_eq_some_iff.1 same
    exact before position.toNat (Nat.lt_of_lt_of_le position.toNat_lt_size far) there

/-- A function that answers a number. -/
def answering (number : Int32) : NativeFunction Unit := ⟨fun _ => return .int number, []⟩

def rows : NativeRegistry Unit :=
  NativeRegistry.registerAll {} [("demo.Row.get", answering 1), ("demo.Row.put", answering 2)]

theorem linked_reached_of_rows :
    ∃ linked, link rows ["demo.Row.put", "demo.Row.get"] = .ok linked ∧
      ∃ position, linked.indexOf? "demo.Row.get" = some position ∧ position.toNat = 1 ∧
        ∀ arguments, linked.call position arguments = (answering 1).handler arguments := by
  have ok : link rows ["demo.Row.put", "demo.Row.get"] =
      .ok ⟨["demo.Row.put", "demo.Row.get"], [answering 2, answering 1]⟩ := rfl
  obtain ⟨function, found, reached, -⟩ :=
    linked_reached rows _ _ ok "demo.Row.get" (by decide)
  obtain rfl : answering 1 = function := Option.some.inj found
  obtain ⟨position, indexed, number, calls⟩ := reached (by decide)
  exact ⟨_, ok, position, indexed, number, calls⟩

/-- A method that is declared so often that none of the positions is left for the one behind. -/
def crowded : List String := List.replicate 65536 "demo.Row.get" ++ ["demo.Row.put"]

theorem known_of_mem_crowded {name : String} (listed : name ∈ crowded) :
    rows.function? name ≠ none := by
  rcases List.mem_append.1 listed with many | last
  · rw [List.eq_of_mem_replicate many]
    nofun
  · rw [List.mem_singleton.1 last]
    nofun

theorem linked_without_position :
    ∃ linked, link rows crowded = .ok linked ∧ "demo.Row.put" ∈ crowded ∧
      linked.indexOf? "demo.Row.put" = none := by
  have other : "demo.Row.put" ∉ List.replicate 65536 "demo.Row.get" :=
    fun member => absurd (List.eq_of_mem_replicate member) (by decide)
  have listed : "demo.Row.put" ∈ crowded := List.mem_append_right _ (List.mem_singleton_self _)
  -- The list is too long to be evaluated, so its position and its functions come from the lemmas.
  have far : UInt16.size ≤ crowded.idxOf "demo.Row.put" := by
    rw [crowded, List.idxOf_append_of_notMem other, List.length_replicate]
    exact Nat.le_add_right _ _
  cases outcome : link rows crowded with
  | error fault =>
    obtain ⟨name, first, -⟩ := link_eq_error_iff.1 outcome
    exact absurd first.1 (known_of_mem_crowded first.mem)
  | ok linked => exact ⟨linked, rfl, listed, indexOf?_of_far outcome listed far⟩

end LinkedNatives

theorem NativeRegistry.function?_register {state : Type} (registry : NativeRegistry state)
    (name other : String) (function : NativeFunction state) :
    (registry.register name function).function? other =
      if other = name then some function else registry.function? other :=
  lookup_replaced registry.functions name other function

/-- What is done with a registry over time. -/
inductive RegistryEvent (state : Type) where
  | register (name : String) (function : NativeFunction state)
  | link (declared : List String)

def RegistryEvent.Registers {state : Type} (name : String) : RegistryEvent state → Prop
  | register other _ => other = name
  | link _ => False

/-- A registry, and what the links against it came to so far. -/
structure RegistryCourse (state : Type) where
  registry : NativeRegistry state := {}
  links : List (Except Fault (LinkedNatives state)) := []

namespace RegistryCourse

open LinkedNatives

variable {state : Type} {history earlier later : List (RegistryEvent state)} {name : String}
  {function : NativeFunction state} {declared : List String} {linked : LinkedNatives state}

def next (course : RegistryCourse state) : RegistryEvent state → RegistryCourse state
  | .register name function => { course with registry := course.registry.register name function }
  | .link declared => { course with links := course.links ++ [link course.registry declared] }

/-- What comes of a history that begins with an empty registry. -/
def after (history : List (RegistryEvent state)) : RegistryCourse state := history.foldl next {}

/-- Of the registrations of the name, that of the function comes last. -/
def LastRegistered (history : List (RegistryEvent state)) (name : String)
    (function : NativeFunction state) : Prop :=
  FirstOf history.reverse (RegistryEvent.Registers name) (.register name function)

def Unregistered (history : List (RegistryEvent state)) (name : String) : Prop :=
  ∀ event ∈ history, ¬ event.Registers name

theorem after_snoc (event : RegistryEvent state) :
    after (history ++ [event]) = (after history).next event := by
  rw [after, List.foldl_append]
  rfl

theorem lastRegistered_snoc {event : RegistryEvent state} :
    LastRegistered (history ++ [event]) name function ↔
      (event.Registers name ∧ .register name function = event) ∨
        (¬ event.Registers name ∧ LastRegistered history name function) := by
  -- The event that is added is the first of the reversed history.
  rw [LastRegistered, List.reverse_append, List.reverse_singleton, List.singleton_append,
    FirstOf.cons_iff]
  rfl

theorem function?_after :
    (after history).registry.function? name = some function ↔
      LastRegistered history name function := by
  induction history using List.reverseRecOn with
  | nil => simp [after, LastRegistered, FirstOf, NativeRegistry.function?]
  | append_singleton history event ih =>
    rw [lastRegistered_snoc, after_snoc, ← ih]
    cases event with
    | register other given =>
      simp only [next, NativeRegistry.function?_register, RegistryEvent.Registers,
        RegistryEvent.register.injEq]
      by_cases same : name = other
      · simp [same, eq_comm]
      · simp [same, Ne.symm same]
    | link declared => simp [next, RegistryEvent.Registers]

theorem function?_after_eq_none_iff :
    (after history).registry.function? name = none ↔ Unregistered history name := by
  constructor
  · intro missing event member registers
    obtain ⟨found, first⟩ :=
      FirstOf.exists_iff.2 ⟨event, List.mem_reverse.2 member, registers⟩
    cases found with
    | register other function =>
      obtain rfl : other = name := first.1
      rw [function?_after.2 first] at missing
      cases missing
    | link declared => exact first.1
  · intro unregistered
    cases found : (after history).registry.function? name with
    | none => rfl
    | some function =>
      have first := function?_after.1 found
      exact absurd first.1 (unregistered _ (List.mem_reverse.1 first.mem))

/-- What links came to stays as it is. -/
theorem links_foldl (course : RegistryCourse state) (later : List (RegistryEvent state)) :
    ∃ others, (later.foldl next course).links = course.links ++ others := by
  induction later generalizing course with
  | nil => exact ⟨[], (List.append_nil _).symm⟩
  | cons event rest ih =>
    obtain ⟨others, same⟩ := ih (course.next event)
    cases event with
    | register name function => exact ⟨others, same⟩
    | link declared => exact ⟨_, same.trans (List.append_assoc _ _ _)⟩

theorem links_after :
    (after (earlier ++ .link declared :: later)).links[(after earlier).links.length]? =
      some (link (after earlier).registry declared) := by
  obtain ⟨others, same⟩ := links_foldl ((after earlier).next (.link declared)) later
  rw [after, List.foldl_append, List.foldl_cons]
  change (later.foldl next ((after earlier).next (.link declared))).links[_]? = _
  rw [same]
  simp [next]

/-- A class that was linked after a history, whatever came later. -/
structure LinkLaw (history : List (RegistryEvent state)) (declared : List String)
    (linked : LinkedNatives state) : Prop where
  counted : linked.functions.length = declared.length
  indexed : ∀ name position, linked.indexOf? name = some position →
    declared[position.toNat]? = some name ∧
    (∀ index < position.toNat, declared[index]? ≠ some name) ∧
    ∃ function, LastRegistered history name function ∧
      ∀ arguments, linked.call position arguments = function.handler arguments
  beyond : ∀ position : UInt16, declared.length ≤ position.toNat → ∀ arguments,
    linked.call position arguments =
      throw (unsatisfied ("native #" ++ toString position.toNat))

theorem linkLaw_of_link (ok : link (after history).registry declared = .ok linked) :
    LinkLaw history declared linked where
  counted := length_of_link ok
  indexed name position indexed := by
    rw [indexOf?_eq_some_iff, (beside_of_link ok).1, List.idxOf?_eq_some_iff] at indexed
    obtain ⟨bound, here, before⟩ := indexed
    have named : declared[position.toNat]? = some name := by
      rw [List.getElem?_eq_getElem bound, here]
    refine ⟨named, fun index below same => ?_, ?_⟩
    · obtain ⟨_, there⟩ := List.getElem?_eq_some_iff.1 same
      exact before index below there
    · obtain ⟨function, found, calls⟩ := call_eq ok named
      exact ⟨function, function?_after.1 found, calls⟩
  beyond position beyond := call_of_beyond (length_of_link ok ▸ beyond)

/-- A link fails for the first declared name that nothing was registered for by then, and for
nothing else. One that succeeds gives every position of a name the function that was registered
last for it by then. What is registered and linked later changes neither. -/
theorem linked_after (earlier later : List (RegistryEvent state)) (declared : List String) :
    ∃ outcome,
      (after (earlier ++ .link declared :: later)).links[(after earlier).links.length]? =
        some outcome ∧
      ((∃ fault, outcome = .error fault) ↔ ∃ name ∈ declared, Unregistered earlier name) ∧
      (∀ fault, outcome = .error fault ↔
        ∃ name, FirstOf declared (Unregistered earlier) name ∧ fault = unsatisfied name) ∧
      ∀ linked, outcome = .ok linked → LinkLaw earlier declared linked := by
  have fails (fault : Fault) : link (after earlier).registry declared = .error fault ↔
      ∃ name, FirstOf declared (Unregistered earlier) name ∧ fault = unsatisfied name := by
    simp only [link_eq_error_iff, function?_after_eq_none_iff]
  refine ⟨_, links_after, ?_, fails, fun linked ok => linkLaw_of_link ok⟩
  simp only [fails, ← FirstOf.exists_iff]
  constructor
  · rintro ⟨fault, name, first, -⟩
    exact ⟨name, first⟩
  · rintro ⟨name, first⟩
    exact ⟨unsatisfied name, name, first, rfl⟩

/-- A function is replaced before and after the link. -/
theorem linked_after_replacing :
    let earlier := [.register "demo.Row.get" (answering 1), .register "demo.Row.get" (answering 2)]
    let later := [.register "demo.Row.get" (answering 3), .link ["demo.Row.put"]]
    ∃ linked,
      (after (earlier ++ .link ["demo.Row.get"] :: later)).links[0]? = some (.ok linked) ∧
      linked.indexOf? "demo.Row.get" = some 0 ∧
      (∀ arguments, linked.call 0 arguments = (answering 2).handler arguments) ∧
      ∀ arguments, linked.call 1 arguments = throw (unsatisfied "native #1") := by
  intro earlier later
  obtain ⟨outcome, placed, -, -, succeeds⟩ := linked_after earlier later ["demo.Row.get"]
  obtain rfl : .ok ⟨["demo.Row.get"], [answering 2]⟩ = outcome := Option.some.inj placed
  have law := succeeds _ rfl
  have indexed : LinkedNatives.indexOf? ⟨["demo.Row.get"], [answering 2]⟩ "demo.Row.get" =
      some 0 := by decide
  obtain ⟨-, -, function, last, calls⟩ := law.indexed "demo.Row.get" 0 indexed
  obtain rfl : answering 2 = function := Option.some.inj (function?_after.2 last)
  exact ⟨_, placed, indexed, calls, law.beyond 1 (by decide)⟩

end RegistryCourse

end GuestBridge
