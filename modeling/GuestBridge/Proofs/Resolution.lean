import GuestBridge.BaseMember

/-!
Accessor tables under any order of calls and of changes to the classes behind them. A slot holds
what the first successful resolution of its member built. Before that every call asks for the class
once and tries anew; after it no call asks again, whatever is registered.
-/
namespace GuestBridge

theorem Accessor.kind_of_ofClass {owner : HostClass} {spec : MemberSpec} {found : Accessor}
    (built : ofClass owner spec = .ok found) : found.kind = spec.kind := by
  unfold ofClass at built
  split at built
  case h_1 isField =>
    cases resolved : BoundField.resolve owner spec.name spec.signature with
    | error fault => simp [resolved, Except.map] at built
    | ok bound =>
      simp only [resolved, Except.map, Except.ok.injEq] at built
      rw [← built, isField]
      rfl
  case h_2 isMethod =>
    split at built
    · cases built
      exact isMethod.symm
    · cases built
  case h_3 isConstructor =>
    split at built
    · cases built
      exact isConstructor.symm
    · cases built

namespace AccessorTable

/-- What classes are looked up in, with the names that were asked for so far. -/
structure Asked (state : Type) where
  classes : state
  names : List String := []

abbrev Desk (state : Type) : Type := AccessorTable × Asked state

inductive Request (state : Type) where
  /-- Asks a slot for its accessor, whatever it is or only if it is of a kind. -/
  | call (wanted : Option MemberKind) (slot : Nat)
  | isResolved (slot : Nat)
  | spec (slot : Nat)
  /-- Classes are added or replaced. -/
  | register (change : state → state)

inductive Answer where
  | found (outcome : Except Fault Accessor)
  | verdict (holds : Bool)
  | spec (spec : Option MemberSpec)
  | done

variable {state : Type}

/-- The resolver, keeping the names that it is asked for. -/
def asking (find : String → Action state Fault HostClass) (name : String) :
    Action (Asked state) Fault HostClass :=
  Action.make fun before =>
    let (outcome, classes) := (find name).run before.classes
    (outcome, ⟨classes, before.names ++ [name]⟩)

def call (find : String → Action state Fault HostClass) (wanted : Option MemberKind)
    (slot : Nat) : Action (AccessorTable × state) Fault Accessor :=
  match wanted with
  | none => accessor find slot
  | some .field => Accessor.field <$> field find slot
  | some .method => Accessor.method <$> method find slot
  | some .constructor => Accessor.constructor <$> constructor find slot

/-- What a call gets from a slot with this accessor. -/
def given (spec : MemberSpec) (found : Accessor) : Option MemberKind → Except Fault Accessor
  | none => .ok found
  | some kind =>
    if found.kind = kind then .ok found
    else .error (.wrongValueKind (kind.word ++ " accessor")
      (found.kind.word ++ " accessor for " ++ spec.owner ++ "." ++ spec.name))

section Calls

variable {find : String → Action state Fault HostClass} {wanted : Option MemberKind} {slot : Nat}
  {desk after : AccessorTable × state} {spec : MemberSpec} {found : Accessor}

theorem run_accessor_of_outside (outside : desk.1.slots[slot]? = none) :
    (accessor find slot).run desk = (.error (slotNotFound slot), desk) := by
  simp [accessor, Action.run_bind, outside]

theorem keep_resolved {table : AccessorTable}
    (present : table.slots[slot]? = some ⟨spec, some found⟩) :
    table.keep slot (some found) = table := by
  have kept : table.slots.modify slot (fun entry => { entry with resolved := some found }) =
      table.slots := by
    apply List.ext_getElem?
    intro other
    rw [List.getElem?_modify]
    split
    case isTrue same =>
      subst same
      simp [present]
    case isFalse => simp
  rw [keep, kept]

theorem run_accessor_of_resolved (present : desk.1.slots[slot]? = some ⟨spec, some found⟩) :
    (accessor find slot).run desk = (.ok found, desk) := by
  simp only [accessor, Action.run_bind, Action.run_get, present, Once.getOrMake,
    Action.run_within, Action.run_pure, Action.run_modify, Focus.second, keep_resolved present]

theorem run_accessor_of_unresolved (present : desk.1.slots[slot]? = some ⟨spec, none⟩) :
    (accessor find slot).run desk =
      match (resolveMember find spec).run desk.2 with
      | (.ok found, classes) => (.ok found, (desk.1.keep slot (some found), classes))
      | (.error fault, classes) => (.error fault, (desk.1, classes)) := by
  simp only [accessor, Action.run_bind, Action.run_get, present, Once.getOrMake, Action.run_within,
    Focus.second]
  rcases (resolveMember find spec).run desk.2 with ⟨fault | found, classes⟩ <;> rfl

theorem run_call_of_fault {fault : Fault}
    (ran : (accessor find slot).run desk = (.error fault, after)) :
    (call find wanted slot).run desk = (.error fault, after) := by
  rcases wanted with _ | _ | _ | _ <;>
    simp [call, field, method, constructor, Action.run_bind, ran]

/-- The kind is looked at when the slot is already resolved. -/
theorem run_call_of_found (ran : (accessor find slot).run desk = (.ok found, after))
    (declared : after.1.spec? slot = some spec) :
    (call find wanted slot).run desk = (given spec found wanted, after) := by
  rcases wanted with _ | _ | _ | _ <;> cases found <;>
    simp [call, field, method, constructor, given, Action.run_bind, ran, wrongMember, declared,
      Accessor.kind]

theorem run_resolveMember_asking (asked : Asked state) :
    (resolveMember (asking find) spec).run asked =
      (((resolveMember find spec).run asked.classes).1,
        ⟨((resolveMember find spec).run asked.classes).2, asked.names ++ [spec.owner]⟩) := by
  have ask : (asking find spec.owner).run asked =
      (((find spec.owner).run asked.classes).1,
        ⟨((find spec.owner).run asked.classes).2, asked.names ++ [spec.owner]⟩) := rfl
  simp only [resolveMember, Action.run_bind, ask]
  rcases (find spec.owner).run asked.classes with ⟨fault | owner, classes⟩ <;> rfl

end Calls

def respond (find : String → Action state Fault HostClass) (desk : Desk state) :
    Request state → Answer × Desk state
  | .call wanted slot =>
    let (outcome, after) := (call (asking find) wanted slot).run desk
    (.found outcome, after)
  | .isResolved slot => (.verdict (desk.1.isResolved slot), desk)
  | .spec slot => (.spec (desk.1.spec? slot), desk)
  | .register change => (.done, (desk.1, { desk.2 with classes := change desk.2.classes }))

def after (find : String → Action state Fault HostClass) (desk : Desk state)
    (history : List (Request state)) : Desk state :=
  history.foldl (fun before request => (respond find before request).2) desk

/-- What a request would build for a slot: a call on it does if its member can be resolved. -/
def builtBy? (find : String → Action state Fault HostClass) (desk : Desk state) (slot : Nat) :
    Request state → Option Accessor
  | .call _ asked =>
    if asked = slot then
      (desk.1.spec? slot).bind fun spec =>
        ((resolveMember find spec).run desk.2.classes).1.toOption
    else none
  | _ => none

/-- What the first successful resolution of a slot built. -/
def firstBuilt? (find : String → Action state Fault HostClass) (desk : Desk state) (slot : Nat) :
    List (Request state) → Option Accessor
  | [] => none
  | request :: rest =>
    (builtBy? find desk slot request).or (firstBuilt? find (respond find desk request).2 slot rest)

section Steps

variable {find : String → Action state Fault HostClass} {wanted : Option MemberKind} {slot : Nat}
  {desk : Desk state} {spec : MemberSpec} {found : Accessor} {classes : state}

theorem slots_keep (table : AccessorTable) (slot other : Nat) (resolved : Once Accessor) :
    (table.keep slot resolved).slots[other]? =
      if slot = other then table.slots[other]?.map fun entry => { entry with resolved }
      else table.slots[other]? := by
  rw [keep, List.getElem?_modify]
  split
  · rfl
  · simp

theorem respond_of_outside (outside : desk.1.slots[slot]? = none) :
    respond find desk (.call wanted slot) = (.found (.error (slotNotFound slot)), desk) := by
  simp only [respond, run_call_of_fault (run_accessor_of_outside outside)]

theorem respond_of_resolved (present : desk.1.slots[slot]? = some ⟨spec, some found⟩) :
    respond find desk (.call wanted slot) = (.found (given spec found wanted), desk) := by
  have declared : desk.1.spec? slot = some spec := by simp [spec?, present]
  simp only [respond, run_call_of_found (run_accessor_of_resolved present) declared]

theorem respond_of_refused {fault : Fault} (present : desk.1.slots[slot]? = some ⟨spec, none⟩)
    (refused : (resolveMember find spec).run desk.2.classes = (.error fault, classes)) :
    respond find desk (.call wanted slot) =
      (.found (.error fault), (desk.1, ⟨classes, desk.2.names ++ [spec.owner]⟩)) := by
  have ran : (accessor (asking find) slot).run desk =
      (.error fault, (desk.1, ⟨classes, desk.2.names ++ [spec.owner]⟩)) := by
    simp only [run_accessor_of_unresolved present, run_resolveMember_asking, refused]
  simp only [respond, run_call_of_fault ran]

theorem respond_of_built (present : desk.1.slots[slot]? = some ⟨spec, none⟩)
    (built : (resolveMember find spec).run desk.2.classes = (.ok found, classes)) :
    respond find desk (.call wanted slot) =
      (.found (given spec found wanted),
        (desk.1.keep slot (some found), ⟨classes, desk.2.names ++ [spec.owner]⟩)) := by
  have ran : (accessor (asking find) slot).run desk =
      (.ok found, (desk.1.keep slot (some found), ⟨classes, desk.2.names ++ [spec.owner]⟩)) := by
    simp only [run_accessor_of_unresolved present, run_resolveMember_asking, built]
  have declared : (desk.1.keep slot (some found)).spec? slot = some spec := by
    simp [spec?, slots_keep, present]
  simp only [respond, run_call_of_found ran declared]

/-- A slot changes only if it is unresolved and the request builds an accessor for it. -/
theorem slots_respond (desk : Desk state) (slot : Nat) (request : Request state) :
    (respond find desk request).2.1.slots[slot]? =
      desk.1.slots[slot]?.map fun entry =>
        { entry with resolved := entry.resolved.or (builtBy? find desk slot request) } := by
  cases request with
  | isResolved | spec | register => simp [respond, builtBy?]
  | call wanted asked =>
    cases present : desk.1.slots[asked]? with
    | none =>
      rw [respond_of_outside present]
      by_cases same : asked = slot
      · subst same
        simp [present]
      · simp [builtBy?, same]
    | some entry =>
      obtain ⟨spec, resolved⟩ := entry
      have declared : desk.1.spec? asked = some spec := by simp [spec?, present]
      cases resolved with
      | some found =>
        rw [respond_of_resolved present]
        by_cases same : asked = slot
        · subst same
          simp [present]
        · simp [builtBy?, same]
      | none =>
        rcases ran : (resolveMember find spec).run desk.2.classes with ⟨fault | found, classes⟩
        · rw [respond_of_refused present ran]
          by_cases same : asked = slot
          · subst same
            simp [builtBy?, declared, ran, present, Except.toOption]
          · simp [builtBy?, same]
        · rw [respond_of_built present ran, slots_keep]
          by_cases same : asked = slot
          · subst same
            simp [builtBy?, declared, ran, present, Except.toOption]
          · simp [builtBy?, same]

end Steps

variable {find : String → Action state Fault HostClass}

/-- Over a whole run a slot holds what it held, or else what was built for it first. -/
theorem slots_after (desk : Desk state) (slot : Nat) (history : List (Request state)) :
    (after find desk history).1.slots[slot]? =
      desk.1.slots[slot]?.map fun entry =>
        { entry with resolved := entry.resolved.or (firstBuilt? find desk slot history) } := by
  induction history generalizing desk with
  | nil => simp [after, firstBuilt?]
  | cons request rest ih =>
    change (after find (respond find desk request).2 rest).1.slots[slot]? = _
    rw [ih, slots_respond, Option.map_map]
    simp [firstBuilt?, Function.comp_def, Option.or_assoc]

theorem firstBuilt?_append (desk : Desk state) (slot : Nat) (earlier later : List (Request state)) :
    firstBuilt? find desk slot (earlier ++ later) =
      (firstBuilt? find desk slot earlier).or
        (firstBuilt? find (after find desk earlier) slot later) := by
  induction earlier generalizing desk with
  | nil => rfl
  | cons request rest ih =>
    simp only [List.cons_append, firstBuilt?, ih, Option.or_assoc]
    rfl

theorem spec?_after (desk : Desk state) (slot : Nat) (history : List (Request state)) :
    (after find desk history).1.spec? slot = desk.1.spec? slot := by
  simp [spec?, slots_after, Function.comp_def]

theorem ofClass_of_resolveMember {spec : MemberSpec} {found : Accessor} {before : state}
    (built : ((resolveMember find spec).run before).1 = .ok found) :
    ∃ owner, Accessor.ofClass owner spec = .ok found := by
  simp only [resolveMember, Action.run_bind] at built
  rcases ran : (find spec.owner).run before with ⟨fault | owner, classes⟩
  · simp [ran] at built
  · rw [ran] at built
    exact ⟨owner, built⟩

/-- The member that is resolved first, at a moment when nothing was built for the slot yet. -/
theorem exists_of_firstBuilt? {desk : Desk state} {slot : Nat} {history : List (Request state)}
    {found : Accessor} (first : firstBuilt? find desk slot history = some found) :
    ∃ earlier wanted rest spec, history = earlier ++ .call wanted slot :: rest ∧
      firstBuilt? find desk slot earlier = none ∧ desk.1.spec? slot = some spec ∧
      ((resolveMember find spec).run (after find desk earlier).2.classes).1 = .ok found := by
  induction history generalizing desk with
  | nil => cases first
  | cons request rest ih =>
    cases now : builtBy? find desk slot request with
    | some built =>
      have same : built = found := by simpa [firstBuilt?, now] using first
      subst same
      cases request with
      | isResolved | spec | register => cases now
      | call wanted asked =>
        simp only [builtBy?, Option.ite_none_right_eq_some, Option.bind_eq_some_iff] at now
        obtain ⟨rfl, spec, declared, built⟩ := now
        refine ⟨[], wanted, rest, spec, rfl, rfl, declared, ?_⟩
        cases outcome : ((resolveMember find spec).run desk.2.classes).1 with
        | error fault => simp [outcome, Except.toOption] at built
        | ok made => simpa [outcome, Except.toOption, after] using built
    | none =>
      have later : firstBuilt? find (respond find desk request).2 slot rest = some found := by
        simpa [firstBuilt?, now] using first
      obtain ⟨earlier, wanted, behind, spec, rfl, unbuilt, declared, built⟩ := ih later
      refine ⟨request :: earlier, wanted, behind, spec, rfl, ?_, ?_, built⟩
      · simp [firstBuilt?, now, unbuilt]
      · rw [← declared]
        exact (spec?_after desk slot [request]).symm

/-- What a slot answers when its first successful resolution, if there was one, built `first?`. -/
structure SlotLaw (find : String → Action state Fault HostClass) (spec? : Option MemberSpec)
    (first? : Option Accessor) (now : Desk state) (slot : Nat) : Prop where
  named : respond find now (.spec slot) = (.spec spec?, now)
  looked : respond find now (.isResolved slot) = (.verdict first?.isSome, now)
  outside : spec? = none → ∀ wanted,
    respond find now (.call wanted slot) = (.found (.error (slotNotFound slot)), now)
  resolved : ∀ spec found, spec? = some spec → first? = some found →
    found.kind = spec.kind ∧ ∀ wanted,
      respond find now (.call wanted slot) = (.found (given spec found wanted), now)
  /-- The class was asked for once and the table is as it was. -/
  refused : ∀ spec fault classes, spec? = some spec → first? = none →
    (resolveMember find spec).run now.2.classes = (.error fault, classes) → ∀ wanted,
      respond find now (.call wanted slot) =
        (.found (.error fault), (now.1, ⟨classes, now.2.names ++ [spec.owner]⟩))
  /-- The class was asked for once, and the slot is resolved also if its kind was not wanted. -/
  built : ∀ spec found classes, spec? = some spec → first? = none →
    (resolveMember find spec).run now.2.classes = (.ok found, classes) → ∀ wanted,
      ∃ table, respond find now (.call wanted slot) =
          (.found (given spec found wanted), (table, ⟨classes, now.2.names ++ [spec.owner]⟩)) ∧
        table.slots[slot]? = some ⟨spec, some found⟩ ∧
        ∀ other, other ≠ slot → table.slots[other]? = now.1.slots[other]?

theorem slotLaw_of_slots {spec? : Option MemberSpec} {first? : Option Accessor} {now : Desk state}
    {slot : Nat} (slots : now.1.slots[slot]? = spec?.map fun spec => ⟨spec, first?⟩)
    (declared : first?.isSome → spec?.isSome)
    (kind : ∀ spec found, spec? = some spec → first? = some found → found.kind = spec.kind) :
    SlotLaw find spec? first? now slot where
  named := by simp [respond, AccessorTable.spec?, slots, Function.comp_def]
  looked := by
    cases spec? with
    | none =>
      have unbuilt : first? = none := by simpa using declared
      simp [respond, isResolved, slots, unbuilt]
    | some spec => simp [respond, isResolved, slots]
  outside undeclared wanted := by
    subst undeclared
    exact respond_of_outside slots
  resolved spec found same first := by
    refine ⟨kind spec found same first, fun wanted => ?_⟩
    subst same first
    exact respond_of_resolved slots
  refused spec fault classes same unbuilt ran wanted := by
    subst same unbuilt
    exact respond_of_refused slots ran
  built spec found classes same unbuilt ran wanted := by
    subst same unbuilt
    refine ⟨_, respond_of_built slots ran, ?_, fun other different => ?_⟩
    · simp [slots_keep, slots]
    · rw [slots_keep, if_neg (Ne.symm different)]

/-- After any history of a table a slot answers from the first successful resolution of its member
alone, and that resolution stays the first. A slot without one asks for the class once at each
call, and takes the accessor if the classes have it by then. -/
theorem slot_law (find : String → Action state Fault HostClass) (members : List MemberSpec)
    (classes : state) (history : List (Request state)) (slot : Nat) :
    let start : Desk state := (declare members, ⟨classes, []⟩)
    SlotLaw find members[slot]? (firstBuilt? find start slot history)
        (after find start history) slot ∧
      ∀ found, firstBuilt? find start slot history = some found →
        (∀ later, firstBuilt? find start slot (history ++ later) = some found) ∧
        ∃ earlier wanted rest spec, history = earlier ++ .call wanted slot :: rest ∧
          firstBuilt? find start slot earlier = none ∧ members[slot]? = some spec ∧
          ((resolveMember find spec).run (after find start earlier).2.classes).1 = .ok found := by
  intro start
  have declared : start.1.spec? slot = members[slot]? := by
    simp [start, AccessorTable.spec?, declare, Function.comp_def]
  have slots : (after find start history).1.slots[slot]? =
      members[slot]?.map fun spec => ⟨spec, firstBuilt? find start slot history⟩ := by
    simp [slots_after, start, declare, Function.comp_def]
  have origin {found : Accessor} (first : firstBuilt? find start slot history = some found) :=
    declared ▸ exists_of_firstBuilt? first
  refine ⟨slotLaw_of_slots slots (fun built => ?_) fun spec found same first => ?_,
    fun found first => ⟨fun later => ?_, origin first⟩⟩
  · obtain ⟨found, first⟩ := Option.isSome_iff_exists.1 built
    obtain ⟨_, _, _, spec, -, -, known, -⟩ := origin first
    simp [known]
  · obtain ⟨_, _, _, known, -, -, atSlot, built⟩ := origin first
    obtain ⟨owner, ofClass⟩ := ofClass_of_resolveMember built
    obtain rfl : known = spec := Option.some.inj (atSlot.symm.trans same)
    exact Accessor.kind_of_ofClass ofClass
  · rw [firstBuilt?_append, first]
    rfl

/-- A class with one field under a name, told from others of the name by its identity. -/
def holder (identity : Nat) : HostClass :=
  ⟨⟨identity, "demo.Holder", false, [⟨"x", "I", .primitive .int, {}, 0⟩]⟩, [], []⟩

/-- A member is asked for too early, then as a method, and then its class is replaced. -/
def replacing : List (Request ClassRegistry) :=
  [.call none 0, .register (·.register (holder 4)), .call (some .method) 0,
    .register (·.register (holder 5))]

theorem replacing_field :
    firstBuilt? ClassRegistry.find (declare [.ofField "demo.Holder" "x" "I"], ⟨{}, []⟩) 0 replacing =
        some (.field ⟨holder 4, ⟨"x", "I", .primitive .int, {}, 0⟩⟩) ∧
      respond ClassRegistry.find
          (after ClassRegistry.find (declare [.ofField "demo.Holder" "x" "I"], ⟨{}, []⟩) replacing)
          (.call (some .field) 0) =
        (.found (.ok (.field ⟨holder 4, ⟨"x", "I", .primitive .int, {}, 0⟩⟩)),
          after ClassRegistry.find (declare [.ofField "demo.Holder" "x" "I"], ⟨{}, []⟩)
            replacing) := by
  have first : firstBuilt? ClassRegistry.find
      (declare [.ofField "demo.Holder" "x" "I"], ⟨{}, []⟩) 0 replacing =
        some (.field ⟨holder 4, ⟨"x", "I", .primitive .int, {}, 0⟩⟩) := rfl
  have law := (slot_law ClassRegistry.find [.ofField "demo.Holder" "x" "I"] {} replacing 0).1
  exact ⟨first, (law.resolved _ _ rfl first).2 (some .field)⟩

end AccessorTable

end GuestBridge
