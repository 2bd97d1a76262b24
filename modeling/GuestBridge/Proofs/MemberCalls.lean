import GuestBridge.Proofs.FirstMatches
import GuestBridge.Proofs.ParameterLists
import GuestBridge.Proofs.Resolution

/-!
Calls of methods and constructors through their accessors. A member whose signature lists its
parameters is found in its class, and can be called with as many arguments. A call runs the body
once or is refused before it, for the number of arguments first and then for a missing receiver.
-/
namespace GuestBridge

/-- How the accessor of a member calls the member's body. Where the body needs a receiver, the
place is what is named when there is none. -/
structure CallLaw {result : Type} (count : Nat) (place? : Option String)
    (body invoke : Option ObjectId → List Value → Action Heap Fault result) : Prop where
  miscounted : ∀ receiver arguments, arguments.length ≠ count →
    invoke receiver arguments =
      throw (.wrongValueKind (toString count ++ " arguments") (toString arguments.length))
  unreceived : ∀ place, place? = some place → ∀ arguments, arguments.length = count →
    invoke none arguments = throw (.nullReceiver place)
  received : place?.isSome → ∀ object arguments, arguments.length = count →
    invoke (some object) arguments = body (some object) arguments
  unneeded : place? = none → ∀ receiver arguments, arguments.length = count →
    invoke receiver arguments = body none arguments

/-- A journal in the heap into which the body enters every call of it, as it was called. -/
def Enters {result entry : Type}
    (body : Option ObjectId → List Value → Action Heap Fault result) (journal : Heap → List entry)
    (written : Option ObjectId → List Value → entry) : Prop :=
  ∀ receiver arguments heap,
    journal ((body receiver arguments).run heap).2 = journal heap ++ [written receiver arguments]

/-- A call is entered once if the arguments are as many as are listed and a receiver that is needed
is given, and otherwise it is not entered at all. -/
def EntersOnce {result : Type} (count : Nat) (place? : Option String)
    (body invoke : Option ObjectId → List Value → Action Heap Fault result) : Prop :=
  ∀ (entry : Type) (journal : Heap → List entry) (written : Option ObjectId → List Value → entry),
    Enters body journal written → ∀ receiver arguments heap,
      journal ((invoke receiver arguments).run heap).2 =
        journal heap ++
          if arguments.length = count ∧ (place?.isSome → receiver.isSome) then
            [written (if place?.isSome then receiver else none) arguments]
          else []

theorem CallLaw.entersOnce {result : Type} {count : Nat} {place? : Option String}
    {body invoke : Option ObjectId → List Value → Action Heap Fault result}
    (law : CallLaw count place? body invoke) : EntersOnce count place? body invoke := by
  intro entry journal written enters receiver arguments heap
  by_cases counted : arguments.length = count
  · cases place? with
    | none =>
      simp [law.unneeded rfl receiver arguments counted, enters none arguments heap, counted]
    | some place =>
      cases receiver with
      | none => simp [law.unreceived place rfl arguments counted]
      | some object =>
        simp [law.received rfl object arguments counted, enters (some object) arguments heap,
          counted]
  · simp [law.miscounted receiver arguments counted, counted]

/-- The place that a call of the method names when it has no receiver but needs one. -/
def HostMethod.place? (method : HostMethod) (owner : HostClass) : Option String :=
  if method.isStatic then none else some (owner.name ++ "." ++ method.name)

theorem BoundMethod.callLaw (bound : BoundMethod) :
    CallLaw bound.arity (bound.method.place? bound.declaring) bound.method.body bound.invoke := by
  have miscounted (receiver : Option ObjectId) (arguments : List Value)
      (wrong : arguments.length ≠ bound.arity) : bound.invoke receiver arguments =
        throw (.wrongValueKind (toString bound.arity ++ " arguments")
          (toString arguments.length)) := by
    simp only [invoke, checkArity, if_neg wrong]
    rfl
  cases dynamic : bound.method.isStatic with
  | true =>
    rw [HostMethod.place?, if_pos dynamic]
    refine ⟨miscounted, nofun, nofun, fun _ receiver arguments counted => ?_⟩
    simp only [invoke, checkArity, if_pos counted, dynamic]
    rfl
  | false =>
    rw [HostMethod.place?, if_neg (by simp [dynamic])]
    refine ⟨miscounted, fun place same arguments counted => ?_,
      fun _ object arguments counted => ?_, nofun⟩
    · obtain rfl := Option.some.inj same
      simp only [invoke, checkArity, if_pos counted, dynamic]
      rfl
    · simp only [invoke, checkArity, if_pos counted, dynamic]
      rfl

theorem BoundConstructor.callLaw (bound : BoundConstructor) :
    CallLaw bound.arity none
      (fun _ => bound.constructor.body bound.declaring.layout) (fun _ => bound.invoke) where
  miscounted receiver arguments wrong := by
    rw [invoke, checkArity, if_neg wrong]
    rfl
  unreceived place needed := by cases needed
  received needed := by cases needed
  unneeded _ receiver arguments counted := by
    rw [invoke, checkArity, if_pos counted]
    rfl

/-- The parameters between the parentheses are counted, whatever the names of their classes. -/
theorem Encloses.parameterCount?_of_list {signature : String} {parameters : List TypeSignature}
    (encloses : Encloses signature (parameters.flatMap TypeSignature.spelling)) :
    parameterCount? signature = some parameters.length := by
  have spelling : ParameterText.spelling ⟨parameters, 0⟩ =
      parameters.flatMap TypeSignature.spelling := by simp [ParameterText.spelling]
  exact parameterCount?_eq_some_iff.2 ⟨⟨parameters, 0⟩, spelling ▸ encloses, rfl⟩

def HostMethod.Alike (method other : HostMethod) : Prop :=
  other.name = method.name ∧ other.signature = method.signature

def HostConstructor.Alike (constructor other : HostConstructor) : Prop :=
  other.signature = constructor.signature

namespace HostClass

variable {owner : HostClass}

theorem findMethod?_iff {method found : HostMethod} :
    owner.findMethod? method.name method.signature = some found ↔
      FirstOf owner.methods method.Alike found := by
  simp [findMethod?, FirstOf.find?_iff, FirstOf, HostMethod.Alike]

theorem findConstructor?_iff {constructor found : HostConstructor} :
    owner.findConstructor? constructor.signature = some found ↔
      FirstOf owner.constructors constructor.Alike found := by
  simp [findConstructor?, FirstOf.find?_iff, FirstOf, HostConstructor.Alike]

end HostClass

namespace AccessorTable

variable {state : Type} {find : String → Action state Fault HostClass} {table : AccessorTable}
  {slot : Nat} {spec : MemberSpec} {found : Accessor} {owner : HostClass} {classes later : state}

/-- The first call on a slot asks for the class, and those after it do not. -/
theorem run_accessor_of_ofClass (present : table.slots[slot]? = some ⟨spec, none⟩)
    (known : (find spec.owner).run classes = (.ok owner, later))
    (built : Accessor.ofClass owner spec = .ok found) :
    ∃ after, (accessor find slot).run (table, classes) = (.ok found, (after, later)) ∧
      ∀ others, (accessor find slot).run (after, others) = (.ok found, (after, others)) := by
  have ran : (resolveMember find spec).run classes = (.ok found, later) := by
    simp only [resolveMember, Action.run_bind, known, built, Action.run_liftM]
  have kept : (table.keep slot (some found)).slots[slot]? = some ⟨spec, some found⟩ := by
    simp [slots_keep, present]
  refine ⟨table.keep slot (some found), ?_, fun others => ?_⟩
  · have first := @run_accessor_of_unresolved state find slot (table, classes) spec present
    rwa [ran] at first
  · exact @run_accessor_of_resolved state find slot (table.keep slot (some found), others) _ _ kept

variable {parameters : List TypeSignature} {typeName : String}

theorem exists_method (known : (find typeName).run classes = (.ok owner, later))
    {method : HostMethod} (declared : method ∈ owner.methods)
    (encloses : Encloses method.signature (parameters.flatMap TypeSignature.spelling))
    (present : table.slots[slot]? =
      some ⟨.ofMethod typeName method.name method.signature, none⟩) :
    ∃ first after, FirstOf owner.methods method.Alike first ∧
      (AccessorTable.method find slot).run (table, classes) =
        (.ok ⟨owner, first, parameters.length⟩, (after, later)) ∧
      ∀ others, (AccessorTable.method find slot).run (after, others) =
        (.ok ⟨owner, first, parameters.length⟩, (after, others)) := by
  obtain ⟨first, isFirst⟩ : ∃ first, FirstOf owner.methods method.Alike first :=
    FirstOf.exists_iff.2 ⟨method, declared, rfl, rfl⟩
  have built : Accessor.ofClass owner (.ofMethod typeName method.name method.signature) =
      .ok (.method ⟨owner, first, parameters.length⟩) := by
    simp only [Accessor.ofClass, MemberSpec.ofMethod, HostClass.findMethod?_iff.2 isFirst,
      encloses.parameterCount?_of_list]
  obtain ⟨after, ran, again⟩ := run_accessor_of_ofClass present known built
  refine ⟨first, after, isFirst, ?_, fun others => ?_⟩
  · simp only [AccessorTable.method, Action.run_bind, ran, Action.run_pure]
  · simp only [AccessorTable.method, Action.run_bind, again, Action.run_pure]

theorem exists_constructor (known : (find typeName).run classes = (.ok owner, later))
    {constructor : HostConstructor} (declared : constructor ∈ owner.constructors)
    (encloses : Encloses constructor.signature (parameters.flatMap TypeSignature.spelling))
    (present : table.slots[slot]? = some ⟨.ofConstructor typeName constructor.signature, none⟩) :
    ∃ first after, FirstOf owner.constructors constructor.Alike first ∧
      (AccessorTable.constructor find slot).run (table, classes) =
        (.ok ⟨owner, first, parameters.length⟩, (after, later)) ∧
      ∀ others, (AccessorTable.constructor find slot).run (after, others) =
        (.ok ⟨owner, first, parameters.length⟩, (after, others)) := by
  obtain ⟨first, isFirst⟩ : ∃ first, FirstOf owner.constructors constructor.Alike first :=
    FirstOf.exists_iff.2 ⟨constructor, declared, rfl⟩
  have built : Accessor.ofClass owner (.ofConstructor typeName constructor.signature) =
      .ok (.constructor ⟨owner, first, parameters.length⟩) := by
    simp only [Accessor.ofClass, MemberSpec.ofConstructor, HostClass.findConstructor?_iff.2 isFirst,
      encloses.parameterCount?_of_list]
  obtain ⟨after, ran, again⟩ := run_accessor_of_ofClass present known built
  refine ⟨first, after, isFirst, ?_, fun others => ?_⟩
  · simp only [AccessorTable.constructor, Action.run_bind, ran, Action.run_pure]
  · simp only [AccessorTable.constructor, Action.run_bind, again, Action.run_pure]

/-- A member that a class declares with a list of parameters is found through its slot: itself, or
the first of its name and signature where several are declared. A call with so many arguments, and
with a receiver if it is a method of instances, runs its body once and nothing else, and any other
call fails before it. -/
theorem members_called (find : String → Action state Fault HostClass) (typeName : String)
    (owner : HostClass) (classes later : state)
    (known : (find typeName).run classes = (.ok owner, later)) (table : AccessorTable) (slot : Nat)
    (parameters : List TypeSignature) :
    (∀ method ∈ owner.methods,
      Encloses method.signature (parameters.flatMap TypeSignature.spelling) →
      table.slots[slot]? = some ⟨.ofMethod typeName method.name method.signature, none⟩ →
      ∃ first bound after, FirstOf owner.methods method.Alike first ∧
        (FirstOf owner.methods method.Alike method → first = method) ∧
        (AccessorTable.method find slot).run (table, classes) = (.ok bound, (after, later)) ∧
        (∀ others,
          (AccessorTable.method find slot).run (after, others) = (.ok bound, (after, others))) ∧
        CallLaw parameters.length (first.place? owner) first.body bound.invoke ∧
        EntersOnce parameters.length (first.place? owner) first.body bound.invoke) ∧
    ∀ constructor ∈ owner.constructors,
      Encloses constructor.signature (parameters.flatMap TypeSignature.spelling) →
      table.slots[slot]? = some ⟨.ofConstructor typeName constructor.signature, none⟩ →
      ∃ first bound after, FirstOf owner.constructors constructor.Alike first ∧
        (FirstOf owner.constructors constructor.Alike constructor → first = constructor) ∧
        (AccessorTable.constructor find slot).run (table, classes) =
          (.ok bound, (after, later)) ∧
        (∀ others,
          (AccessorTable.constructor find slot).run (after, others) =
            (.ok bound, (after, others))) ∧
        CallLaw parameters.length none (fun _ => first.body owner.layout)
          (fun _ => bound.invoke) ∧
        EntersOnce parameters.length none (fun _ => first.body owner.layout)
          (fun _ => bound.invoke) := by
  constructor
  · intro method declared encloses present
    obtain ⟨first, after, isFirst, ran, again⟩ := exists_method known declared encloses present
    have law := BoundMethod.callLaw ⟨owner, first, parameters.length⟩
    exact ⟨first, _, after, isFirst, isFirst.unique, ran, again, law, law.entersOnce⟩
  · intro constructor declared encloses present
    obtain ⟨first, after, isFirst, ran, again⟩ :=
      exists_constructor known declared encloses present
    have law := BoundConstructor.callLaw ⟨owner, first, parameters.length⟩
    exact ⟨first, _, after, isFirst, isFirst.unique, ran, again, law, law.entersOnce⟩

def noting (receiver : Option ObjectId) (arguments : List Value) : Action Heap Fault Value := do
  let objects := receiver.toList ++ arguments.filterMap Value.object?
  modify fun heap =>
    { heap with constants := heap.constants ++ [(⟨4, "demo.Ledger", false, []⟩, objects)] }
  return .null

def noted (heap : Heap) : List (List ObjectId) := heap.constants.map (·.2)

def ledger : HostClass where
  layout := ⟨4, "demo.Ledger", false, []⟩
  methods := [⟨"enter", "(Ljava.lang.Object;[I)V", false, noting, []⟩,
    ⟨"enter", "(Ljava.lang.Object;[I)V", true, fun _ _ => throw .platformUnsupported, []⟩]
  constructors := []

/-- The method that is declared first notes down its one call. -/
theorem members_called_of_ledger :
    ∃ bound after,
      (AccessorTable.method ClassRegistry.find 0).run
          (declare [.ofMethod "demo.Ledger" "enter" "(Ljava.lang.Object;[I)V"], ⟨[ledger]⟩) =
        (.ok bound, (after, ⟨[ledger]⟩)) ∧
      noted ((bound.invoke (some ⟨0⟩) [.ref ⟨1⟩, .null]).run {}).2 = [[⟨0⟩, ⟨1⟩]] ∧
      bound.invoke none [.ref ⟨1⟩] = throw (.wrongValueKind "2 arguments" "1") ∧
      bound.invoke none [.ref ⟨1⟩, .null] = throw (.nullReceiver "demo.Ledger.enter") := by
  have encloses : Encloses "(Ljava.lang.Object;[I)V" (List.flatMap TypeSignature.spelling
      [⟨0, .named "java.lang.Object".toList (by decide)⟩, ⟨1, .primitive .int⟩]) :=
    ⟨by decide, ['V'], by decide⟩
  obtain ⟨first, bound, after, isFirst, -, ran, -, law, once⟩ :=
    (members_called ClassRegistry.find "demo.Ledger" ledger ⟨[ledger]⟩ ⟨[ledger]⟩ rfl
      (declare [.ofMethod "demo.Ledger" "enter" "(Ljava.lang.Object;[I)V"]) 0 _).1
      _ (List.mem_cons_of_mem _ List.mem_cons_self) encloses rfl
  obtain rfl : first = ⟨"enter", "(Ljava.lang.Object;[I)V", false, noting, []⟩ := by
    rcases FirstOf.cons_iff.1 isFirst with ⟨-, same⟩ | ⟨unlike, -⟩
    · exact same
    · exact absurd ⟨rfl, rfl⟩ unlike
  have entered := once (List ObjectId) noted
    (fun receiver arguments => receiver.toList ++ arguments.filterMap Value.object?)
    (fun receiver arguments heap => by simp [noting, noted])
    (some ⟨0⟩) [.ref ⟨1⟩, .null] {}
  refine ⟨bound, after, ran, entered, ?_, ?_⟩
  · exact law.miscounted none [.ref ⟨1⟩] (by decide)
  · exact law.unreceived "demo.Ledger.enter" rfl [.ref ⟨1⟩, .null] rfl

end AccessorTable

end GuestBridge
