import GuestBridge.Proofs.BaseObjects
import GuestBridge.Proofs.MemberCalls

/-!
Base members without their table. With the base classes in the registry, an operation on a member
comes to one on the heap alone, which does not depend on the slots that are resolved already.
-/
namespace GuestBridge

theorem BoundConstructor.invoke_eq (bound : BoundConstructor) {arguments : List Value}
    (counted : arguments.length = bound.arity) :
    bound.invoke arguments = bound.constructor.body bound.declaring.layout arguments :=
  bound.callLaw.unneeded rfl none arguments counted

theorem BoundMethod.invoke_eq (bound : BoundMethod) (dynamic : bound.method.isStatic = false)
    {receiver : ObjectId} {arguments : List Value} (counted : arguments.length = bound.arity) :
    bound.invoke (some receiver) arguments = bound.method.body (some receiver) arguments := by
  have needed : (bound.method.place? bound.declaring).isSome := by
    simp [HostMethod.place?, dynamic]
  exact bound.callLaw.received needed receiver arguments counted

namespace MemberSpace

variable {types : ClassRegistry} {result other : Type}

/-- With the classes of a registry the operation comes to one on the heap alone, whatever slots of
the base members are resolved. -/
def Means (types : ClassRegistry) (action : Action MemberSpace Fault result)
    (meaning : Action Heap Fault result) : Prop :=
  ∀ table heap, BaseMember.table.Resolves types table → ∃ after,
    action.run ⟨table, types, heap⟩ =
        ((meaning.run heap).1, ⟨after, types, (meaning.run heap).2⟩) ∧
      BaseMember.table.Resolves types after

namespace Means

theorem onHeap (action : Action Heap Fault result) :
    Means types (MemberSpace.onHeap action) action :=
  fun table _ resolves => ⟨table, rfl, resolves⟩

theorem liftM (outcome : Except Fault result) :
    Means types (MonadLiftT.monadLift outcome) (MonadLiftT.monadLift outcome) :=
  fun table _ resolves => ⟨table, rfl, resolves⟩

theorem bind {first : Action MemberSpace Fault other} {direct : Action Heap Fault other}
    {second : other → Action MemberSpace Fault result} {rest : other → Action Heap Fault result}
    (early : Means types first direct) (late : ∀ value, Means types (second value) (rest value)) :
    Means types (first >>= second) (direct >>= rest) := by
  intro table heap resolves
  obtain ⟨middle, ran, resolvesMiddle⟩ := early table heap resolves
  rw [Action.run_bind, Action.run_bind, ran]
  rcases direct.run heap with ⟨fault | value, reached⟩
  · exact ⟨middle, rfl, resolvesMiddle⟩
  · exact late value middle reached resolvesMiddle

theorem map {action : Action MemberSpace Fault other} {meaning : Action Heap Fault other}
    (means : Means types action meaning) (change : other → result) :
    Means types (change <$> action) (change <$> meaning) := by
  intro table heap resolves
  obtain ⟨after, ran, resolvesAfter⟩ := means table heap resolves
  exact ⟨after, by rw [Action.run_map, Action.run_map, ran], resolvesAfter⟩

/-- A member that is picked out of its slot is the one of its class. -/
theorem given (held : types.HoldsBase) (member : BaseMember)
    {pick : Accessor → Action (AccessorTable × ClassRegistry) Fault other} {bound : other}
    {use : other → Action MemberSpace Fault result} {meaning : Action Heap Fault result}
    (picked : pick (member.accessor (types.base member.family)) = pure bound)
    (rest : Means types (use bound) meaning) :
    Means types
      ((AccessorTable.accessor ClassRegistry.find member.slot >>= pick).within accessors >>= use)
      meaning := by
  intro table heap resolves
  obtain ⟨middle, ran, more⟩ := AccessorTable.run_accessor types table member.slot
  rw [BaseMember.answer_eq held resolves] at ran
  rw [Action.run_bind, Action.run_within, accessors, Action.run_bind, ran]
  simp only [picked, Action.run_pure]
  exact rest middle heap (resolves.trans more)

theorem getObject (held : types.HoldsBase) (member : BaseMember) {field : BoundField}
    (isField : member.accessor (types.base member.family) = .field field) (object : ObjectId) :
    Means types (MemberSpace.getObject member object) (field.getObject object) := by
  refine given held member (by rw [isField]) ?_
  exact .bind (.onHeap _) fun _ => .liftM _

theorem setObject (held : types.HoldsBase) (member : BaseMember) {field : BoundField}
    (isField : member.accessor (types.base member.family) = .field field) (object : ObjectId)
    (target : Option ObjectId) :
    Means types (MemberSpace.setObject member object target) (field.setObject object target) :=
  given held member (by rw [isField]) (.onHeap _)

theorem construct (held : types.HoldsBase) (member : BaseMember) {bound : BoundConstructor}
    (isConstructor : member.accessor (types.base member.family) = .constructor bound)
    {arguments : List Value} (counted : arguments.length = bound.arity) :
    Means types (MemberSpace.construct member arguments)
      (bound.constructor.body bound.declaring.layout arguments) := by
  refine given held member (by rw [isConstructor]) ?_
  rw [bound.invoke_eq counted]
  exact .onHeap _

theorem callForText (held : types.HoldsBase) (member : BaseMember) {bound : BoundMethod}
    (isMethod : member.accessor (types.base member.family) = .method bound)
    (dynamic : bound.method.isStatic = false) (receiver : ObjectId) {arguments : List Value}
    (counted : arguments.length = bound.arity) :
    Means types (MemberSpace.callForText member receiver arguments)
      (BaseClass.asText (bound.method.body (some receiver) arguments)) := by
  refine given held member (by rw [isMethod]) ?_
  rw [bound.invoke_eq dynamic counted]
  refine .bind (.onHeap _) fun value table heap resolves => ⟨table, ?_, resolves⟩
  simp only [Action.run_bind, Action.run_get]
  rcases heap.text? value with _ | content <;> cases value <;> rfl

end Means

end MemberSpace

end GuestBridge
