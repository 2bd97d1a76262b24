import GuestBridge.Bridge
import GuestBridge.Proofs.PlanStages
import GuestBridge.Proofs.Resolution

/-!
Reading members of the base classes. A read writes no cell, whatever the classes are; all that it
may change is that a slot of the accessor table is resolved. What a slot gives is the same before
and after, so no read changes what another one answers.
-/
namespace GuestBridge

namespace Access

theorem reads_of_mem_getPlan {field : BoundField} {strategy : Strategy} {step : Step}
    (planned : step ∈ (field.getPlan strategy).steps) : step.writes = false := by
  have staged : Staged field .get .started (field.getPlan strategy).steps :=
    .cons .locate (staged_readSteps field strategy)
  obtain ⟨now, next, leads⟩ := staged.exists_leads planned
  exact leads.reads rfl

theorem Plan.readsOnly_run {plan : Plan} (reads : ∀ step ∈ plan.steps, step.writes = false)
    (receiver : Option ObjectId) (operand : Operand) : (plan.run receiver operand).ReadsOnly := by
  have steps : Action.ReadsOnly
      (plan.steps.foldlM (Step.run plan.target receiver operand) {}) :=
    .foldlM (fun step planned progress =>
      Step.readsOnly_run (reads step planned) plan.target receiver operand progress) {}
  exact steps.bind fun finished => .pure finished.outcome

end Access

theorem BoundField.readsOnly_get (field : BoundField) (strategy : Access.Strategy)
    (receiver : Option ObjectId) : (field.get strategy receiver).ReadsOnly := by
  have run : ((field.getPlan strategy).run receiver .get).ReadsOnly :=
    Access.Plan.readsOnly_run (fun _ => Access.reads_of_mem_getPlan) receiver .get
  refine .bind run fun outcome => ?_
  cases outcome with
  | value value => exact .pure value
  | stored => exact .throw _
  | exchanged swapped => exact .throw _

namespace AccessorTable

/-- What a slot gives: what it holds, or else what its member resolves to. -/
def answer (types : ClassRegistry) (table : AccessorTable) (slot : Nat) : Except Fault Accessor :=
  match table.slots[slot]? with
  | none => .error (slotNotFound slot)
  | some ⟨_, some found⟩ => .ok found
  | some ⟨spec, none⟩ => ((resolveMember ClassRegistry.find spec).run types).1

/-- The later table gives the same in every slot. -/
structure Resolves (types : ClassRegistry) (before after : AccessorTable) : Prop where
  answer_eq : ∀ slot, after.answer types slot = before.answer types slot
  spec?_eq : ∀ slot, after.spec? slot = before.spec? slot

variable {types : ClassRegistry} {table before after : AccessorTable}

theorem Resolves.refl (types : ClassRegistry) (table : AccessorTable) :
    Resolves types table table :=
  ⟨fun _ => rfl, fun _ => rfl⟩

theorem Resolves.trans {first second third : AccessorTable} (early : Resolves types first second)
    (late : Resolves types second third) : Resolves types first third where
  answer_eq slot := (late.answer_eq slot).trans (early.answer_eq slot)
  spec?_eq slot := (late.spec?_eq slot).trans (early.spec?_eq slot)

theorem run_resolveMember (types : ClassRegistry) (spec : MemberSpec) :
    ((resolveMember ClassRegistry.find spec).run types).2 = types := by
  have find : (ClassRegistry.find spec.owner).ReadsOnly := .bind .get fun _ => .liftM _
  exact find.bind (fun _ => .liftM _) types

theorem resolves_keep {slot : Nat} {spec : MemberSpec} {found : Accessor}
    (present : table.slots[slot]? = some ⟨spec, none⟩)
    (built : ((resolveMember ClassRegistry.find spec).run types).1 = .ok found) :
    Resolves types table (table.keep slot (some found)) where
  answer_eq other := by
    by_cases same : slot = other
    · subst same
      simp [answer, slots_keep, present, built]
    · simp [answer, slots_keep, same]
  spec?_eq other := by
    by_cases same : slot = other
    · subst same
      simp [spec?, slots_keep, present]
    · simp [spec?, slots_keep, same]

theorem run_accessor (types : ClassRegistry) (table : AccessorTable) (slot : Nat) :
    ∃ after, (accessor ClassRegistry.find slot).run (table, types) =
      (table.answer types slot, (after, types)) ∧ Resolves types table after := by
  cases present : table.slots[slot]? with
  | none =>
    refine ⟨table, ?_, .refl types table⟩
    rw [run_accessor_of_outside present, answer, present]
  | some entry =>
    obtain ⟨spec, resolved⟩ := entry
    cases resolved with
    | some found =>
      refine ⟨table, ?_, .refl types table⟩
      rw [run_accessor_of_resolved present, answer, present]
    | none =>
      have sameTypes := run_resolveMember types spec
      rw [run_accessor_of_unresolved present, answer, present]
      rcases ran : (resolveMember ClassRegistry.find spec).run types with
        ⟨fault | found, reached⟩ <;> rw [ran] at sameTypes <;> subst sameTypes
      · exact ⟨table, by simp [ran], .refl _ table⟩
      · refine ⟨table.keep slot (some found), by simp [ran], resolves_keep present ?_⟩
        rw [ran]

/-- The field that a slot gives, if it gives one. -/
def fieldIn (types : ClassRegistry) (table : AccessorTable) (slot : Nat) :
    Except Fault BoundField :=
  match table.answer types slot with
  | .ok (.field bound) => .ok bound
  | .ok other => .error (table.wrongMember slot other .field)
  | .error fault => .error fault

theorem run_field (types : ClassRegistry) (table : AccessorTable) (slot : Nat) :
    ∃ after, (field ClassRegistry.find slot).run (table, types) =
      (table.fieldIn types slot, (after, types)) ∧ Resolves types table after := by
  obtain ⟨after, ran, resolves⟩ := run_accessor types table slot
  refine ⟨after, ?_, resolves⟩
  rw [field, Action.run_bind, ran, fieldIn]
  rcases table.answer types slot with fault | (bound | bound | bound)
  · rfl
  · rfl
  · simp [Action.run_bind, wrongMember, resolves.spec?_eq]
  · simp [Action.run_bind, wrongMember, resolves.spec?_eq]

theorem Resolves.fieldIn_eq (resolves : Resolves types before after) (slot : Nat) :
    after.fieldIn types slot = before.fieldIn types slot := by
  simp only [fieldIn, resolves.answer_eq, wrongMember, resolves.spec?_eq]

end AccessorTable

namespace MemberSpace

/-- The later space has the same classes and objects, and its table gives the same. -/
structure Resolves (before after : MemberSpace) : Prop where
  types_eq : after.types = before.types
  heap_eq : after.heap = before.heap
  table : before.table.Resolves before.types after.table

theorem Resolves.refl (space : MemberSpace) : space.Resolves space :=
  ⟨rfl, rfl, .refl _ _⟩

theorem Resolves.trans {first second third : MemberSpace} (early : first.Resolves second)
    (late : second.Resolves third) : first.Resolves third where
  types_eq := late.types_eq.trans early.types_eq
  heap_eq := late.heap_eq.trans early.heap_eq
  table := early.table.trans (early.types_eq ▸ late.table)

/-- What an object member reads as. -/
def objectIn (space : MemberSpace) (member : BaseMember) (owner : ObjectId) :
    Except Fault (Option ObjectId) := do
  let field ← space.table.fieldIn space.types member.slot
  let value ← ((field.get .plain (some owner)).run space.heap).1
  value.toObject

theorem run_getObject (member : BaseMember) (owner : ObjectId) (space : MemberSpace) :
    ∃ after, (getObject member owner).run space = (space.objectIn member owner, after) ∧
      space.Resolves after := by
  obtain ⟨table, ran, resolves⟩ := AccessorTable.run_field space.types space.table member.slot
  refine ⟨{ space with table }, ?_, ⟨rfl, rfl, resolves⟩⟩
  simp only [getObject, Action.run_bind, Action.run_within, accessors, ran, objectIn, onHeap]
  cases space.table.fieldIn space.types member.slot with
  | error fault => rfl
  | ok field =>
    have unchanged := field.readsOnly_get .plain (some owner) space.heap
    rcases read : (field.get .plain (some owner)).run space.heap with ⟨fault | value, heap⟩ <;>
      rw [read] at unchanged <;> subst unchanged <;> simp [read, bind, Except.bind]

theorem Resolves.objectIn_eq {before after : MemberSpace} (resolves : before.Resolves after)
    (member : BaseMember) (owner : ObjectId) :
    after.objectIn member owner = before.objectIn member owner := by
  simp only [objectIn, resolves.types_eq, resolves.table.fieldIn_eq, resolves.heap_eq]

end MemberSpace

namespace Session

variable {state : Type}

/-- The later session differs at most in which slots of its accessor table are resolved. -/
structure Resolves (before after : Session state) : Prop where
  bridge_eq : after.bridge = { before.bridge with members := after.bridge.members }
  world_eq : after.world = before.world
  members : before.bridge.members.Resolves before.bridge.types after.bridge.members

theorem Resolves.refl (session : Session state) : session.Resolves session :=
  ⟨rfl, rfl, .refl _ _⟩

theorem Resolves.types_eq {before after : Session state} (resolves : before.Resolves after) :
    after.bridge.types = before.bridge.types := by
  rw [resolves.bridge_eq]

theorem Resolves.backend_eq {before after : Session state} (resolves : before.Resolves after) :
    after.bridge.backend = before.bridge.backend := by
  rw [resolves.bridge_eq]

theorem Resolves.trans {first second third : Session state} (early : first.Resolves second)
    (late : second.Resolves third) : first.Resolves third where
  bridge_eq := by rw [late.bridge_eq, early.bridge_eq]
  world_eq := late.world_eq.trans early.world_eq
  members := early.members.trans (early.types_eq ▸ late.members)

theorem resolves_memberPart {session : Session state} {space : MemberSpace}
    (resolves : (memberPart.get session).Resolves space) :
    session.Resolves (memberPart.set space session) := by
  obtain ⟨table, types, heap⟩ := space
  obtain ⟨rfl, rfl, table⟩ := resolves
  exact ⟨rfl, rfl, table⟩

theorem Resolves.memberPart {before after : Session state} (resolves : before.Resolves after) :
    (memberPart.get before).Resolves (memberPart.get after) :=
  ⟨resolves.types_eq, congrArg World.heap resolves.world_eq, resolves.members⟩

/-- Reading an object member on a session. -/
theorem run_getObject (member : BaseMember) (owner : ObjectId) (session : Session state) :
    ∃ after, (onMembers (MemberSpace.getObject member owner)).run session =
      ((memberPart.get session).objectIn member owner, after) ∧ session.Resolves after := by
  obtain ⟨space, ran, resolves⟩ :=
    MemberSpace.run_getObject member owner (memberPart.get session)
  refine ⟨memberPart.set space session, ?_, resolves_memberPart resolves⟩
  rw [onMembers, Action.run_within, ran]

end Session

namespace Bridge

open Session

variable {state : Type}

/-- The stream that an object in a descriptor stands for. -/
def wrappedStream (heap : Heap) : Option ObjectId → Except Fault (Option StreamId)
  | none => .ok none
  | some wrapper =>
    match BaseClass.streamOf? heap wrapper with
    | some stream => .ok (some stream)
    | none => .error (.wrongValueKind BaseClass.streamName (heap.className wrapper))

/-- The stream in a descriptor, by what its member reads as. -/
def streamIn (session : Session state) (descriptor : ObjectId) :
    Except Fault (Option StreamId) :=
  ((memberPart.get session).objectIn .descriptorStream descriptor).bind
    (wrappedStream session.world.heap)

def socketIn (session : Session state) (descriptor : ObjectId) :
    Except Fault (Option SocketId) :=
  ((memberPart.get session).objectIn .descriptorSocket descriptor).map fun wrapper =>
    wrapper.bind (BaseClass.socketOf? session.world.heap)

theorem run_descriptorStream (descriptor : ObjectId) (session : Session state) :
    ∃ after, (descriptorStream descriptor).run session = (streamIn session descriptor, after) ∧
      session.Resolves after := by
  obtain ⟨after, ran, resolves⟩ := Session.run_getObject .descriptorStream descriptor session
  refine ⟨after, ?_, resolves⟩
  simp only [descriptorStream, MemberSpace.descriptorStream, Action.run_bind, ran, streamIn]
  rcases (memberPart.get session).objectIn .descriptorStream descriptor with
    fault | (- | wrapper)
  · rfl
  · rfl
  · simp only [Action.run_bind, Action.run_get, resolves.world_eq, Except.bind, wrappedStream]
    cases BaseClass.streamOf? session.world.heap wrapper <;> rfl

theorem run_descriptorSocket (descriptor : ObjectId) (session : Session state) :
    ∃ after, (descriptorSocket descriptor).run session = (socketIn session descriptor, after) ∧
      session.Resolves after := by
  obtain ⟨after, ran, resolves⟩ := Session.run_getObject .descriptorSocket descriptor session
  refine ⟨after, ?_, resolves⟩
  simp only [descriptorSocket, MemberSpace.descriptorSocket, Action.run_bind, ran, socketIn]
  cases (memberPart.get session).objectIn .descriptorSocket descriptor with
  | error fault => rfl
  | ok wrapper => simp only [Action.run_get, resolves.world_eq, Action.run_pure, Except.map]

theorem outcome_descriptorStream (descriptor : ObjectId) (session : Session state) :
    ((descriptorStream descriptor).run session).1 = streamIn session descriptor := by
  obtain ⟨after, ran, -⟩ := run_descriptorStream descriptor session
  rw [ran]

theorem outcome_descriptorSocket (descriptor : ObjectId) (session : Session state) :
    ((descriptorSocket descriptor).run session).1 = socketIn session descriptor := by
  obtain ⟨after, ran, -⟩ := run_descriptorSocket descriptor session
  rw [ran]

theorem streamIn_eq {before after : Session state} (resolves : before.Resolves after)
    (descriptor : ObjectId) : streamIn after descriptor = streamIn before descriptor := by
  simp only [streamIn, resolves.memberPart.objectIn_eq, resolves.world_eq]

theorem socketIn_eq {before after : Session state} (resolves : before.Resolves after)
    (descriptor : ObjectId) : socketIn after descriptor = socketIn before descriptor := by
  simp only [socketIn, resolves.memberPart.objectIn_eq, resolves.world_eq]

end Bridge

end GuestBridge
