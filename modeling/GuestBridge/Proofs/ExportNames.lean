import GuestBridge.Backend.Recorded
import GuestBridge.Backend.Scripted
import GuestBridge.NativeLibrary
import GuestBridge.Proofs.TextCuts
import Mathlib.Control.Monad.Basic

/-!
Which spellings of an export a library is asked for. One request asks for one spelling, or for two,
in a fixed order that the naming of the backend decides. The spelling with the size of the arguments
can be read back, so no two requests share one, whatever the names are.
-/
namespace GuestBridge

namespace ExportRequest

theorem at_notMem_digits (number : Nat) : '@' ∉ Nat.toDigits 10 number := by
  intro member
  have digit := Nat.isDigit_of_mem_toDigits (by decide) (by decide) member
  simp at digit

theorem toList_sized (request : ExportRequest) :
    request.sized.toList =
      ('_' :: request.name.toList) ++ '@' :: Nat.toDigits 10 request.argumentBytes.toNat := by
  simp [sized, Nat.toString_eq_repr]

/-- The last at-sign of a spelling stands before the size, also if there are some in the name. -/
theorem sized_injective : Function.Injective sized := by
  intro left right same
  have letters := congrArg String.toList same
  rw [toList_sized, toList_sized] at letters
  obtain ⟨names, sizes⟩ :=
    eq_of_separated_last (at_notMem_digits _) (at_notMem_digits _) letters
  obtain ⟨name, argumentBytes⟩ := left
  obtain ⟨name', argumentBytes'⟩ := right
  have sameName : name = name' := String.toList_injective (List.cons.inj names).2
  have sameNumber : argumentBytes.toNat = argumentBytes'.toNat := by
    have parsed := congrArg (fun digits => Nat.ofDigitChars 10 digits 0) sizes
    simpa using parsed
  rw [sameName, UInt32.toNat_inj.1 sameNumber]

end ExportRequest

namespace NativeLibrary

variable {state : Type} {backend : Backend state} {handle : LibraryHandle}
  {request : ExportRequest}

/-- How a lookup goes: the spellings that the library is asked for, and what comes of it. -/
inductive Lookup (backend : Backend state) (handle : LibraryHandle) (request : ExportRequest)
    (machine : Machine state) : List String → Option UInt64 × Machine state → Prop where
  | plain (naming : backend.naming = .plain) :
      Lookup backend handle request machine [request.name]
        ((backend.resolveSymbol handle request.name).run machine)
  | unasked (naming : backend.naming = .sizedArguments)
      (long : ExportRequest.longestName < request.name.utf8ByteSize) :
      Lookup backend handle request machine [] (none, machine)
  | sized (naming : backend.naming = .sizedArguments)
      (short : request.name.utf8ByteSize ≤ ExportRequest.longestName) {address : UInt64}
      {after : Machine state}
      (found : (backend.resolveSymbol handle request.sized).run machine = (some address, after)) :
      Lookup backend handle request machine [request.sized] (some address, after)
  | unsized (naming : backend.naming = .sizedArguments)
      (short : request.name.utf8ByteSize ≤ ExportRequest.longestName) {between : Machine state}
      (missing : (backend.resolveSymbol handle request.sized).run machine = (none, between)) :
      Lookup backend handle request machine [request.sized, request.name]
        ((backend.resolveSymbol handle request.name).run between)

theorem exists_lookup (backend : Backend state) (handle : LibraryHandle) (request : ExportRequest)
    (machine : Machine state) :
    ∃ names, Lookup backend handle request machine names
      ((exportAt backend handle request).run machine) := by
  cases naming : backend.naming with
  | plain =>
    simp only [exportAt, naming]
    exact ⟨_, .plain naming⟩
  | sizedArguments =>
    simp only [exportAt, naming]
    by_cases long : ExportRequest.longestName < request.name.utf8ByteSize
    · rw [if_pos long]
      exact ⟨_, .unasked naming long⟩
    · have short := Nat.le_of_not_lt long
      rw [if_neg long, StateT.run_bind]
      rcases asked : (backend.resolveSymbol handle request.sized).run machine with
        ⟨- | address, after⟩
      · exact ⟨_, .unsized naming short asked⟩
      · exact ⟨_, .sized naming short asked⟩

theorem Lookup.eq_of_mem {machine : Machine state} {names : List String}
    {found : Option UInt64 × Machine state}
    (lookup : Lookup backend handle request machine names found) {name : String}
    (asked : name ∈ names) : name = request.sized ∨ name = request.name := by
  cases lookup <;> simp_all

/-- Each spelling that is asked for is one call of the backend, and there are no others. -/
theorem Lookup.calls_eq {machine : Machine (Recording state)} {names : List String}
    {found : Option UInt64 × Machine (Recording state)}
    (lookup : Lookup backend.recorded handle request machine names found) :
    found.2.own.calls = machine.own.calls ++ names.map (.resolve handle) := by
  have asked (name : String) (before : Machine (Recording state)) :
      ((backend.recorded.resolveSymbol handle name).run before).2.own.calls =
        before.own.calls ++ [.resolve handle name] := rfl
  cases lookup with
  | plain => exact asked ..
  | unasked => exact (List.append_nil _).symm
  | sized naming short found =>
    have first := asked request.sized machine
    rwa [found] at first
  | unsized naming short missing =>
    have first := asked request.sized machine
    rw [missing] at first
    rw [asked, first, List.append_assoc]
    rfl

theorem Lookup.bare {machine : Machine (Recording state)} {names : List String}
    {found : Option UInt64 × Machine (Recording state)}
    (lookup : Lookup backend.recorded handle request machine names found) :
    Lookup backend handle request (Backend.withoutCalls.get machine) names
      (found.1, Backend.withoutCalls.get found.2) := by
  have asked (name : String) (before : Machine (Recording state)) :
      (backend.resolveSymbol handle name).run (Backend.withoutCalls.get before) =
        let ended := (backend.recorded.resolveSymbol handle name).run before
        (ended.1, Backend.withoutCalls.get ended.2) := rfl
  cases lookup with
  | plain naming => exact .plain naming
  | unasked naming long => exact .unasked naming long
  | sized naming short found =>
    have naming : backend.naming = .sizedArguments := naming
    have first := asked request.sized machine
    rw [found] at first
    exact .sized naming short first
  | unsized naming short missing =>
    have naming : backend.naming = .sizedArguments := naming
    have first := asked request.sized machine
    rw [missing] at first
    exact .unsized naming short first

/-- What a library is asked for, and what of that is answered. Under the naming with sizes the
spelling with the size decides if the library has it, and a plain name that is too long for such a
spelling is not asked for either. No other request is spelled the same way, so that this spelling
can only come up again as a plain name. -/
theorem found_by_spelling (backend : Backend state) (handle : LibraryHandle)
    (request : ExportRequest) (machine : Machine (Recording state)) :
    let has (name : String) := (backend.resolveSymbol handle name).run
    let spelling (wanted : ExportRequest) : String :=
      "_" ++ wanted.name ++ "@" ++ toString wanted.argumentBytes.toNat
    let bare := Backend.withoutCalls.get machine
    let found := (exportAt backend.recorded handle request).run machine
    ∃ names, found.2.own.calls = machine.own.calls ++ names.map (.resolve handle) ∧
      (backend.naming = .plain →
        names = [request.name] ∧ found.1 = (has request.name bare).1) ∧
      (backend.naming = .sizedArguments → 501 < request.name.utf8ByteSize →
        names = [] ∧ found.1 = none) ∧
      (backend.naming = .sizedArguments → request.name.utf8ByteSize ≤ 501 →
        let sized := has (spelling request) bare
        (∀ address, sized.1 = some address →
          names = [spelling request] ∧ found.1 = some address) ∧
        (sized.1 = none →
          names = [spelling request, request.name] ∧ found.1 = (has request.name sized.2).1)) ∧
      ∀ other, other ≠ request →
        spelling other ≠ spelling request ∧
          (spelling other ∈ names → spelling other = request.name) := by
  intro has spelling bare found
  obtain ⟨names, lookup⟩ := exists_lookup backend.recorded handle request machine
  refine ⟨names, lookup.calls_eq, ?_⟩
  have others (other : ExportRequest) (different : other ≠ request) :
      spelling other ≠ spelling request ∧
        (spelling other ∈ names → spelling other = request.name) := by
    have apart : spelling other ≠ spelling request :=
      fun same => different (ExportRequest.sized_injective same)
    exact ⟨apart, fun asked => (lookup.eq_of_mem asked).resolve_left apart⟩
  have rule := lookup.bare
  change Lookup backend handle request bare names (found.1, _) at rule
  generalize ended : (found.1, Backend.withoutCalls.get _) = result at rule
  cases rule with
  | plain naming =>
    refine ⟨fun _ => ⟨rfl, congrArg Prod.fst ended⟩, ?_, ?_, others⟩
    · simp [naming]
    · simp [naming]
  | unasked naming long =>
    refine ⟨by simp [naming], fun _ _ => ⟨rfl, congrArg Prod.fst ended⟩, ?_, others⟩
    intro _ short
    exact absurd long (Nat.not_lt.2 short)
  | sized naming short first =>
    have first : has (spelling request) bare = _ := first
    refine ⟨by simp [naming], fun _ long => absurd long (Nat.not_lt.2 short), ?_, others⟩
    intro _ _
    simp only [first, Option.some.injEq, forall_eq', reduceCtorEq, false_implies, and_true]
    exact ⟨rfl, congrArg Prod.fst ended⟩
  | unsized naming short first =>
    have first : has (spelling request) bare = _ := first
    refine ⟨by simp [naming], fun _ long => absurd long (Nat.not_lt.2 short), ?_, others⟩
    intro _ _
    simp only [first, reduceCtorEq, false_implies, implies_true, true_and, forall_const]
    exact ⟨rfl, congrArg Prod.fst ended⟩

/-- A library on a script with both spellings of one name, and one with a plain name only. -/
def spelled : Machine (Recording Script) where
  own :=
    { own :=
        { installed := [("demo", ["_add@16", "add", "_add@8"])]
          loaded := [(⟨4096⟩, "demo")] } }
  system := {}

/-- The decorated spelling is found first; and the spelling of another request is asked for here as
a plain name. -/
theorem found_by_spelling_twice :
    let backend := Backend.scripted { name := "scripted", naming := .sizedArguments }
    let found (request : ExportRequest) :=
      (exportAt backend.recorded ⟨4096⟩ request).run spelled
    (found ⟨"add", 16⟩).1 = some 4112 ∧
      (found ⟨"add", 16⟩).2.own.calls = [.resolve ⟨4096⟩ "_add@16"] ∧
      (found ⟨"_add@8", 4⟩).1 = some 4144 ∧
      (found ⟨"_add@8", 4⟩).2.own.calls =
        [.resolve ⟨4096⟩ "__add@8@4", .resolve ⟨4096⟩ "_add@8"] := by
  intro backend found
  obtain ⟨names, calls, -, -, sized, -⟩ := found_by_spelling backend ⟨4096⟩ ⟨"add", 16⟩ spelled
  obtain ⟨asked, answered⟩ := (sized rfl (by decide)).1 4112 (by decide +kernel)
  obtain ⟨names', calls', -, -, sized', -⟩ :=
    found_by_spelling backend ⟨4096⟩ ⟨"_add@8", 4⟩ spelled
  obtain ⟨asked', answered'⟩ := (sized' rfl (by decide)).2 (by decide +kernel)
  subst asked asked'
  refine ⟨answered, calls, answered'.trans (by decide +kernel), calls'⟩

end NativeLibrary

end GuestBridge
