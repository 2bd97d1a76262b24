/-!
Operations that change a state and may fail. The state comes back on failure too: what a failed
operation has already done stays done, so a law can say what failure leaves unchanged.
-/
namespace GuestBridge

/-- From a state to a result or a failure, together with the state afterwards. -/
abbrev Action (state failure result : Type) : Type := ExceptT failure (StateM state) result

/-- Access to one part of a larger state. -/
structure Focus (whole part : Type) where
  get : whole → part
  set : part → whole → whole

def Focus.first {left right : Type} : Focus (left × right) left :=
  ⟨Prod.fst, fun part whole => (part, whole.2)⟩

def Focus.second {left right : Type} : Focus (left × right) right :=
  ⟨Prod.snd, fun part whole => (whole.1, part)⟩

namespace Action

variable {state part failure other result : Type}

def run (action : Action state failure result) (initial : state) : Except failure result × state :=
  StateT.run (ExceptT.run action) initial

def make (step : state → Except failure result × state) : Action state failure result :=
  ExceptT.mk step

/-- Runs an operation that cannot fail. -/
def ofState (step : StateM state result) : Action state failure result :=
  make fun before => let after := step.run before; (.ok after.1, after.2)

/-- A result or failure that does not touch the state. -/
def ofExcept (outcome : Except failure result) : Action state failure result :=
  make fun before => (outcome, before)

/-- Runs the operation on one part of the state. -/
def within (focus : Focus state part) (action : Action part failure result) :
    Action state failure result :=
  make fun before =>
    let after := action.run (focus.get before)
    (after.1, focus.set after.2 before)

/-- Turns failure into an answer; the operation itself then never fails. -/
def attempt (action : Action state failure result) :
    Action state other (Except failure result) :=
  make fun before =>
    let after := action.run before
    (.ok after.1, after.2)

/-- Restates the failure. -/
def mapFailure (restate : failure → other) (action : Action state failure result) :
    Action state other result :=
  make fun before =>
    let after := action.run before
    (after.1.mapError restate, after.2)

@[simp] theorem run_pure (value : result) (initial : state) :
    (pure value : Action state failure result).run initial = (.ok value, initial) := rfl

@[simp] theorem run_throw (fault : failure) (initial : state) :
    (throw fault : Action state failure result).run initial = (.error fault, initial) := rfl

@[simp] theorem run_get (initial : state) :
    (get : Action state failure state).run initial = (.ok initial, initial) := rfl

@[simp] theorem run_set (later initial : state) :
    (set later : Action state failure PUnit).run initial = (.ok ⟨⟩, later) := rfl

@[simp] theorem run_liftM (outcome : Except failure result) (initial : state) :
    (liftM outcome : Action state failure result).run initial = (outcome, initial) := rfl

@[simp] theorem run_modify (change : state → state) (initial : state) :
    (modify change : Action state failure PUnit).run initial = (.ok ⟨⟩, change initial) := rfl

@[simp] theorem run_ofExcept (outcome : Except failure result) (initial : state) :
    (ofExcept outcome).run initial = (outcome, initial) := rfl

theorem run_within (focus : Focus state part) (action : Action part failure result)
    (initial : state) :
    (action.within focus).run initial =
      ((action.run (focus.get initial)).1,
        focus.set (action.run (focus.get initial)).2 initial) := rfl

theorem run_attempt (action : Action state failure result) (initial : state) :
    (action.attempt : Action state other (Except failure result)).run initial =
      (.ok (action.run initial).1, (action.run initial).2) := rfl

theorem run_mapFailure (restate : failure → other) (action : Action state failure result)
    (initial : state) :
    (action.mapFailure restate).run initial =
      ((action.run initial).1.mapError restate, (action.run initial).2) := rfl

@[simp] theorem run_map (change : result → other) (action : Action state failure result)
    (initial : state) :
    (change <$> action).run initial =
      ((action.run initial).1.map change, (action.run initial).2) := by
  simp only [run, ExceptT.run_map, StateT.run_map]
  rcases StateT.run (ExceptT.run action) initial with ⟨outcome | outcome, middle⟩ <;> rfl

/-- The second operation starts from the state that the first one leaves. -/
theorem run_bind {value : Type} (first : Action state failure value)
    (second : value → Action state failure result) (initial : state) :
    (first >>= second).run initial =
      match first.run initial with
      | (.ok value, middle) => (second value).run middle
      | (.error fault, middle) => (.error fault, middle) := by
  simp only [run, ExceptT.run_bind, StateT.run_bind]
  rcases StateT.run (ExceptT.run first) initial with ⟨outcome | outcome, middle⟩ <;> rfl

end Action

end GuestBridge
