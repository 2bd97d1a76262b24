import GuestBridge.Proofs.MemberReads

/-!
The base classes of a registry. Whatever identities they were defined under, and whatever else the
registry holds, every base member is resolved to the same declaration of its class. A registry to
which the base classes were added holds them.
-/
namespace GuestBridge

open BaseClass

namespace ClassRegistry

theorem find?_register_self (registry : ClassRegistry) (owner : HostClass) :
    (registry.register owner).find? owner.name = some owner := by
  simp [register, find?]

theorem find?_register_of_ne {name : String} (registry : ClassRegistry) {owner : HostClass}
    (different : name ≠ owner.name) :
    (registry.register owner).find? name = registry.find? name := by
  have unlike : (owner.name == name) = false := by simpa using different.symm
  simp only [register, find?, List.find?_cons, unlike, List.find?_filter]
  congr 1
  funext other
  by_cases found : other.name = name <;> simp [found, different]

/-- Every base class is known under its name, defined at whatever time. -/
def HoldsBase (types : ClassRegistry) : Prop :=
  ∀ definition ∈ definitions, ∃ identity owner,
    definition.build identity = .ok owner ∧ types.find? definition.name = some owner

end ClassRegistry

/-- The classes that every registry defines for itself. -/
inductive BaseFamily where
  | descriptor
  | channel
  | file
  | properties
  | iterator
  deriving DecidableEq

namespace BaseFamily

def all : List BaseFamily := [descriptor, channel, file, properties, iterator]

def definition : BaseFamily → ClassDefinition
  | descriptor => BaseClass.descriptor
  | channel => BaseClass.channel
  | file => BaseClass.randomAccessFile
  | properties => BaseClass.properties
  | iterator => BaseClass.enumeratorIterator

def streamField : HostField :=
  ⟨"stream", streamSignature, .reference, { isVolatile := true }, 0⟩

def socketField : HostField :=
  ⟨"socket", socketSignature, .reference, { isVolatile := true }, 1⟩

def channelField : HostField := ⟨"fd", descriptorSignature, .reference, { isFinal := true }, 0⟩

def fileField : HostField := ⟨"fd", descriptorSignature, .reference, {}, 0⟩

def fields : BaseFamily → List HostField
  | descriptor => [streamField, socketField]
  | channel => [channelField]
  | file => [fileField]
  | properties => []
  | iterator => [⟨"enumerator", objectSignature, .reference, { isFinal := true }, 0⟩]

/-- The class as it is defined under an identity. -/
def owner (family : BaseFamily) (identity : Nat) : HostClass where
  layout := ⟨identity, family.definition.name, false, family.fields⟩
  methods := family.definition.methods
  constructors := family.definition.constructors

theorem mem_definitions (family : BaseFamily) : family.definition ∈ definitions := by
  cases family <;> simp [definitions, definition]

theorem build_eq (family : BaseFamily) (identity : Nat) :
    family.definition.build identity = .ok (family.owner identity) := by
  cases family <;> rfl

theorem name_injective {family other : BaseFamily}
    (same : family.definition.name = other.definition.name) : family = other := by
  revert same
  cases family <;> cases other <;> decide

end BaseFamily

namespace ClassRegistry

variable {types : ClassRegistry}

/-- The registry's own class of a family. -/
def base (types : ClassRegistry) (family : BaseFamily) : HostClass :=
  (types.find? family.definition.name).getD (family.owner 0)

theorem HoldsBase.base_eq (held : types.HoldsBase) (family : BaseFamily) :
    types.find? family.definition.name = some (types.base family) ∧
      ∃ identity, types.base family = family.owner identity := by
  obtain ⟨identity, owner, built, found⟩ := held family.definition family.mem_definitions
  rw [family.build_eq, Except.ok.injEq] at built
  have own : types.base family = owner := by rw [base, found, Option.getD_some]
  exact ⟨by rw [found, own], identity, by rw [own, built]⟩

def Holds (types : ClassRegistry) (family : BaseFamily) : Prop :=
  ∃ identity, types.find? family.definition.name = some (family.owner identity)

theorem Holds.register {family : BaseFamily} (held : types.Holds family) (other : BaseFamily)
    (identity : Nat) : (types.register (other.owner identity)).Holds family := by
  by_cases same : family = other
  · subst same
    exact ⟨identity, find?_register_self types (family.owner identity)⟩
  · obtain ⟨earlier, found⟩ := held
    refine ⟨earlier, (find?_register_of_ne types fun sameName => same ?_).trans found⟩
    exact BaseFamily.name_injective sameName

theorem run_define (family : BaseFamily) (heap : Heap) :
    ∃ after, family.definition.define.run heap =
      (.ok (family.owner heap.nextIdentity), after) := by
  simp [ClassDefinition.define, Action.run_bind, BaseFamily.build_eq, Except.map]

theorem holds_registered (families : List BaseFamily) (types : ClassRegistry) (heap : Heap) :
    ∃ known after, ((families.map BaseFamily.definition).foldlM
        (fun known definition => return known.register (← definition.define)) types :
          Action Heap Fault ClassRegistry).run heap = (.ok known, after) ∧
      ∀ family, family ∈ families ∨ types.Holds family → known.Holds family := by
  induction families generalizing types heap with
  | nil =>
    refine ⟨types, heap, rfl, fun family known => ?_⟩
    exact known.resolve_left List.not_mem_nil
  | cons first rest ih =>
    obtain ⟨middle, defined⟩ := run_define first heap
    obtain ⟨known, after, ran, holds⟩ :=
      ih (types.register (first.owner heap.nextIdentity)) middle
    refine ⟨known, after, ?_, fun family listed => holds family ?_⟩
    · rw [List.map_cons, List.foldlM_cons, bind_assoc, Action.run_bind, defined]
      simpa only [pure_bind] using ran
    · rcases listed with listed | before
      · rcases List.mem_cons.1 listed with rfl | later
        · exact .inr ⟨_, find?_register_self types _⟩
        · exact .inl later
      · exact .inr (before.register first heap.nextIdentity)

/-- Adding the base classes never fails. -/
theorem holdsBase_addTo (registry : ClassRegistry) (heap : Heap) :
    ∃ types after, (addTo registry).run heap = (.ok types, after) ∧ types.HoldsBase := by
  obtain ⟨types, after, ran, holds⟩ :=
    holds_registered BaseFamily.all (shared.foldl .register registry) heap
  refine ⟨types, after, ran, fun definition listed => ?_⟩
  obtain ⟨family, member, rfl⟩ : ∃ family ∈ BaseFamily.all, family.definition = definition :=
    List.mem_map.1 listed
  obtain ⟨identity, found⟩ := holds family (.inl member)
  exact ⟨identity, family.owner identity, family.build_eq identity, found⟩

end ClassRegistry

namespace BaseMember

def family : BaseMember → BaseFamily
  | descriptorStream | descriptorSocket | newDescriptor => .descriptor
  | channelDescriptor | newChannel => .channel
  | fileDescriptor => .file
  | getProperty | setProperty => .properties
  | newEnumeratorIterator => .iterator

/-- What the member is in its class. -/
def accessor (owner : HostClass) : BaseMember → Accessor
  | descriptorStream => .field ⟨owner, BaseFamily.streamField⟩
  | descriptorSocket => .field ⟨owner, BaseFamily.socketField⟩
  | newDescriptor => .constructor ⟨owner, plainConstructor emptyConstructorSignature none, 0⟩
  | channelDescriptor => .field ⟨owner, BaseFamily.channelField⟩
  | newChannel => .constructor ⟨owner, storingConstructor channelConstructorSignature, 1⟩
  | fileDescriptor => .field ⟨owner, BaseFamily.fileField⟩
  | getProperty =>
    .method ⟨owner, ⟨"getProperty", getPropertySignature, false, BaseClass.getProperty, []⟩, 1⟩
  | setProperty =>
    .method ⟨owner, ⟨"setProperty", setPropertySignature, false, BaseClass.setProperty, []⟩, 2⟩
  | newEnumeratorIterator =>
    .constructor ⟨owner, storingConstructor iteratorConstructorSignature, 1⟩

theorem ofClass_spec (member : BaseMember) (identity : Nat) :
    Accessor.ofClass (member.family.owner identity) member.spec =
      .ok (member.accessor (member.family.owner identity)) := by
  cases member <;> rfl

theorem spec_owner (member : BaseMember) :
    member.spec.owner = member.family.definition.name := by
  cases member <;> rfl

theorem table_slot (member : BaseMember) :
    table.slots[member.slot]? = some ⟨member.spec, none⟩ := by
  cases member <;> rfl

/-- The slot of a base member gives the same, whether or not it was asked before. -/
theorem answer_eq {types : ClassRegistry} {after : AccessorTable} (held : types.HoldsBase)
    (resolves : table.Resolves types after) (member : BaseMember) :
    after.answer types member.slot = .ok (member.accessor (types.base member.family)) := by
  obtain ⟨found, identity, own⟩ := held.base_eq member.family
  have resolved : types.resolve member.spec.owner = .ok (types.base member.family) := by
    rw [ClassRegistry.resolve, spec_owner, found]
  rw [resolves.answer_eq, AccessorTable.answer, table_slot]
  simp only [AccessorTable.resolveMember, ClassRegistry.find, Action.run_bind, Action.run_get,
    Action.run_liftM, resolved]
  rw [own, ofClass_spec]

end BaseMember

end GuestBridge
