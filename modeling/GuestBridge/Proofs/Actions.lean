import GuestBridge.Action

/-!
Properties of operations that go through all their parts: that an operation leaves the state alone,
that it keeps something true of the state, that it fails in certain ways only, that it answers in
certain ways only, and that from one state it fails before it has done anything.
-/
namespace GuestBridge.Action

variable {state part failure other result value : Type} {allowed : failure → Prop}
  {holds : state → Prop}

def ReadsOnly (action : Action state failure result) : Prop :=
  ∀ before, (action.run before).2 = before

namespace ReadsOnly

theorem pure (answer : result) : ReadsOnly (Pure.pure answer : Action state failure result) :=
  fun _ => rfl

theorem throw (fault : failure) :
    ReadsOnly (MonadExcept.throw fault : Action state failure result) :=
  fun _ => rfl

theorem get : ReadsOnly (MonadState.get : Action state failure state) := fun _ => rfl

theorem liftM (outcome : Except failure result) :
    ReadsOnly (MonadLiftT.monadLift outcome : Action state failure result) :=
  fun _ => rfl

theorem bind {first : Action state failure value} {second : value → Action state failure result}
    (reads : first.ReadsOnly) (rest : ∀ value, (second value).ReadsOnly) :
    (first >>= second).ReadsOnly := by
  intro before
  have unchanged := reads before
  rw [run_bind]
  rcases ran : first.run before with ⟨fault | value, middle⟩ <;> rw [ran] at unchanged
  · exact unchanged
  · exact (rest value middle).trans unchanged

theorem foldlM {item : Type} {items : List item}
    {step : value → item → Action state failure value}
    (reads : ∀ item ∈ items, ∀ value, (step value item).ReadsOnly) (initial : value) :
    (items.foldlM step initial).ReadsOnly := by
  induction items generalizing initial with
  | nil => exact .pure initial
  | cons first rest ih =>
    rw [List.foldlM_cons]
    have now := reads first List.mem_cons_self initial
    exact .bind now (ih fun later behind => reads later (List.mem_cons_of_mem _ behind))

theorem attempt {action : Action state other result} (reads : action.ReadsOnly) :
    ReadsOnly (action.attempt : Action state failure (Except other result)) :=
  reads

theorem within {focus : Focus state part}
    (settled : ∀ whole, focus.set (focus.get whole) whole = whole)
    {action : Action part failure result} (reads : action.ReadsOnly) :
    (action.within focus).ReadsOnly := by
  intro before
  rw [run_within, reads, settled]

end ReadsOnly

def Keeps (holds : state → Prop) (action : Action state failure result) : Prop :=
  ∀ before, holds before → holds (action.run before).2

namespace Keeps

theorem of_readsOnly {action : Action state failure result} (reads : action.ReadsOnly) :
    action.Keeps holds := by
  intro before held
  rwa [reads before]

theorem bind {first : Action state failure value} {second : value → Action state failure result}
    (early : first.Keeps holds) (late : ∀ value, (second value).Keeps holds) :
    (first >>= second).Keeps holds := by
  intro before held
  have passed := early before held
  rw [run_bind]
  rcases ran : first.run before with ⟨fault | value, middle⟩ <;> rw [ran] at passed
  · exact passed
  · exact late value middle passed

theorem modify {change : state → state} (keeps : ∀ before, holds before → holds (change before)) :
    Keeps holds (modify change : Action state failure PUnit) :=
  keeps

/-- What follows a look at the state may use that this is the state. -/
theorem get_bind {second : state → Action state failure result}
    (late : ∀ before, holds before → holds ((second before).run before).2) :
    (MonadState.get >>= second).Keeps holds :=
  late

/-- What follows an outcome may use that it succeeded with this value. -/
theorem liftM_bind {outcome : Except failure value} {second : value → Action state failure result}
    (late : ∀ value, outcome = .ok value → (second value).Keeps holds) :
    ((MonadLiftT.monadLift outcome : Action state failure value) >>= second).Keeps holds := by
  cases outcome with
  | error fault => exact fun _ held => held
  | ok value => exact late value rfl

theorem mapFailure (restate : other → failure) {action : Action state other result}
    (keeps : action.Keeps holds) : (action.mapFailure restate).Keeps holds :=
  keeps

theorem attempt {action : Action state other result} (keeps : action.Keeps holds) :
    Keeps holds (action.attempt : Action state failure (Except other result)) :=
  keeps

/-- A check that may end the operation comes before what keeps it. -/
theorem check {condition : Prop} [Decidable condition] {fault : failure}
    {rest : value → Action state failure result} {second : Action state failure result}
    (late : ¬ condition → second.Keeps holds) :
    Keeps holds (if condition then MonadExcept.throw fault >>= rest else second) := by
  split
  · exact fun _ held => held
  · exact late ‹_›

end Keeps

def FailsOnly (allowed : failure → Prop) (action : Action state failure result) : Prop :=
  ∀ before fault, (action.run before).1 = .error fault → allowed fault

namespace FailsOnly

theorem pure (answer : result) :
    FailsOnly allowed (Pure.pure answer : Action state failure result) := by
  rintro before fault ⟨⟩

theorem get : FailsOnly allowed (MonadState.get : Action state failure state) := by
  rintro before fault ⟨⟩

theorem throw {fault : failure} (fine : allowed fault) :
    FailsOnly allowed (MonadExcept.throw fault : Action state failure result) := by
  rintro before fault ⟨⟩
  exact fine

theorem liftM {outcome : Except failure result}
    (fine : ∀ fault, outcome = .error fault → allowed fault) :
    FailsOnly allowed (MonadLiftT.monadLift outcome : Action state failure result) :=
  fun _ => fine

theorem attempt (action : Action state other result) :
    FailsOnly allowed (action.attempt : Action state failure (Except other result)) := by
  rintro before fault ⟨⟩

theorem mapFailure {restate : other → failure} (fine : ∀ cause, allowed (restate cause))
    (action : Action state other result) : FailsOnly allowed (action.mapFailure restate) := by
  intro before fault failed
  rw [run_mapFailure] at failed
  rcases ran : (action.run before).1 with cause | answer <;> rw [ran] at failed <;> cases failed
  exact fine cause

theorem within (focus : Focus state part) {action : Action part failure result}
    (fails : FailsOnly allowed action) : FailsOnly allowed (action.within focus) :=
  fun before fault failed => fails (focus.get before) fault failed

theorem bind {first : Action state failure value} {second : value → Action state failure result}
    (early : FailsOnly allowed first) (late : ∀ value, FailsOnly allowed (second value)) :
    FailsOnly allowed (first >>= second) := by
  intro before fault failed
  rw [run_bind] at failed
  rcases ran : first.run before with ⟨cause | value, middle⟩ <;> rw [ran] at failed
  · cases failed
    exact early before fault (congrArg Prod.fst ran)
  · exact late value middle fault failed

end FailsOnly

def Yields (wanted : result → Prop) (action : Action state failure result) : Prop :=
  ∀ before answer after, action.run before = (.ok answer, after) → wanted answer

namespace Yields

theorem pure {wanted : result → Prop} {answer : result} (fine : wanted answer) :
    Yields wanted (Pure.pure answer : Action state failure result) := by
  rintro before _ after ⟨⟩
  exact fine

theorem bind {between : value → Prop} {wanted : result → Prop}
    {first : Action state failure value} {second : value → Action state failure result}
    (early : first.Yields between) (late : ∀ value, between value → (second value).Yields wanted) :
    (first >>= second).Yields wanted := by
  intro before answer after answered
  rw [run_bind] at answered
  rcases ran : first.run before with ⟨fault | value, middle⟩ <;> rw [ran] at answered
  · cases answered
  · exact late value (early before value middle ran) middle answer after answered

/-- Only the last operation decides. -/
theorem onward {wanted : result → Prop} {first : Action state failure value}
    {second : value → Action state failure result} (late : ∀ value, (second value).Yields wanted) :
    (first >>= second).Yields wanted := by
  have anything : first.Yields fun _ => True := fun _ _ _ _ => trivial
  exact anything.bind fun value _ => late value

end Yields

def Stops (action : Action state failure result) (before : state) : Prop :=
  ∃ fault, action.run before = (.error fault, before)

namespace Stops

variable {before : state}

theorem get_bind {second : state → Action state failure result}
    (late : (second before).Stops before) : (MonadState.get >>= second).Stops before :=
  late

/-- What follows an outcome may use that it succeeded with this value. -/
theorem liftM_bind {outcome : Except failure value} {second : value → Action state failure result}
    (late : ∀ value, outcome = .ok value → (second value).Stops before) :
    ((MonadLiftT.monadLift outcome : Action state failure value) >>= second).Stops before := by
  cases outcome with
  | error fault => exact ⟨fault, rfl⟩
  | ok value => exact late value rfl

end Stops

end GuestBridge.Action
