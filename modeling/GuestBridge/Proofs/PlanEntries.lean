import GuestBridge.Proofs.PlanStages

/-!
Plans and the three ways to run them. Nothing in a plan says what it was compiled for; a run as
something else is only noticed by a step that lacks its operand, or by the outcome. It is always
noticed, and nothing has been written by then. Run as what it was compiled for, a plan never comes
to a guard that refuses, and of its values it asks only that they fit the field.
-/
namespace GuestBridge

namespace Access

/-- The failure of a run that ended with an outcome of another sort. -/
def Operand.misuse : Operand → Fault
  | get => mismatch "get plan"
  | set _ => mismatch "set plan"
  | exchange _ _ => mismatch "compare-and-swap plan"

namespace Plan

/-- Runs the plan as what the operand is for. -/
def enter (plan : Plan) (receiver : Option ObjectId) : Operand → Action Heap Fault Outcome
  | .get => .value <$> plan.get receiver
  | .set value => (fun _ => .stored) <$> plan.set receiver value
  | .exchange expected update => .exchanged <$> plan.exchange receiver expected update

variable {plan : Plan} {receiver : Option ObjectId} {operand : Operand} {purpose : Purpose}
  {heap after : Heap} {fault : Fault}

theorem run_enter (plan : Plan) (receiver : Option ObjectId) (operand : Operand) (heap : Heap) :
    (plan.enter receiver operand).run heap =
      match (plan.run receiver operand).run heap with
      | (.error fault, after) => (.error fault, after)
      | (.ok outcome, after) =>
        if outcome.purpose = operand.purpose then (.ok outcome, after)
        else (.error operand.misuse, after) := by
  cases operand with
  | get =>
    simp only [enter, get, Action.run_map, Action.run_bind]
    rcases (plan.run receiver .get).run heap with ⟨fault | outcome, after⟩
    · rfl
    · cases outcome <;> rfl
  | set value =>
    simp only [enter, set, Action.run_map, Action.run_bind]
    rcases (plan.run receiver (.set value)).run heap with ⟨fault | outcome, after⟩
    · rfl
    · cases outcome <;> rfl
  | exchange expected update =>
    simp only [enter, exchange, Action.run_map, Action.run_bind]
    rcases (plan.run receiver (.exchange expected update)).run heap with ⟨fault | outcome, after⟩
    · rfl
    · cases outcome <;> rfl

theorem readsOnly_of_foreign (staged : Staged plan.target purpose .started plan.steps)
    (foreign : operand.purpose ≠ purpose) (receiver : Option ObjectId) :
    (plan.run receiver operand).ReadsOnly :=
  (staged.readsOnly foreign {}).bind fun finished => .pure finished.outcome

theorem yields_run (staged : Staged plan.target purpose .started plan.steps) :
    (plan.run receiver operand).Yields fun outcome => outcome.purpose = purpose :=
  (staged.yields rfl).bind fun _ shows => .pure shows

theorem faults_of_run (laidOut : plan.target.LaidOut)
    (staged : Staged plan.target purpose .started plan.steps) (own : operand.purpose = purpose)
    (failed : (plan.run receiver operand).run heap = (.error fault, after)) :
    operand.Faults plan.target.kind fault := by
  rw [run, Action.run_bind] at failed
  rcases ran : Action.run (plan.steps.foldlM (Step.run plan.target receiver operand) {}) heap with
    ⟨cause | finished, later⟩ <;> rw [ran] at failed
  · cases failed
    exact staged.faults laidOut own rfl ran
  · cases failed

/-- Either a step fails, or the outcome is of the sort that the plan was compiled for. -/
theorem stops_of_foreign (staged : Staged plan.target purpose .started plan.steps)
    (foreign : operand.purpose ≠ purpose) : (plan.enter receiver operand).Stops heap := by
  have unchanged := readsOnly_of_foreign staged foreign receiver heap
  rw [Action.Stops, run_enter]
  rcases ran : (plan.run receiver operand).run heap with ⟨fault | outcome, after⟩ <;>
    rw [ran] at unchanged <;> subst unchanged
  · exact ⟨fault, rfl⟩
  · have shows : outcome.purpose = purpose := yields_run staged after outcome after ran
    have other : outcome.purpose ≠ operand.purpose := fun same => foreign (same.symm.trans shows)
    exact ⟨operand.misuse, if_neg other⟩

theorem run_enter_of_own (staged : Staged plan.target purpose .started plan.steps)
    (own : operand.purpose = purpose) :
    (plan.enter receiver operand).run heap = (plan.run receiver operand).run heap := by
  rw [run_enter]
  rcases ran : (plan.run receiver operand).run heap with ⟨fault | outcome, after⟩
  · rfl
  · have shows : outcome.purpose = purpose := yields_run staged heap outcome after ran
    exact if_pos (shows.trans own.symm)

end Plan

end Access

namespace BoundField

open Access

/-- A plan run as something else than it was compiled for fails and changes nothing. Run as what it
was compiled for, it fails for no mismatch, for the kind of a value only where a given value does
not fit the field, and whenever a step is due the guards of the step let it pass. -/
theorem entries_guarded {definition : ClassDefinition} {identity : Nat} {owner : HostClass}
    {declared : HostField} {strategy : Strategy} {purpose : Purpose} {plan : Plan}
    (built : definition.build identity = .ok owner) (listed : declared ∈ owner.layout.fields)
    (compiled : BoundField.plan ⟨owner, declared⟩ strategy purpose = .ok plan) (heap : Heap)
    (receiver : Option ObjectId) (operand : Operand) :
    (operand.purpose ≠ purpose →
      ∃ fault, (plan.enter receiver operand).run heap = (.error fault, heap)) ∧
    (operand.purpose = purpose →
      (∀ fault after, (plan.enter receiver operand).run heap = (.error fault, after) →
        (∀ expected, fault ≠ mismatch expected) ∧
        ∀ expected got, fault = .wrongValueKind expected got →
          ∃ value ∈ operand.values, value.fits declared.kind = false) ∧
      ∀ earlier step later progress middle, plan.steps = earlier ++ step :: later →
        Action.run (earlier.foldlM (Step.run plan.target receiver operand) {}) heap =
          (.ok progress, middle) →
        step.Passes operand progress middle) := by
  have laidOut : LaidOut ⟨owner, declared⟩ := ClassDefinition.storageKinds_slot built listed
  obtain ⟨target, steps⟩ := plan
  obtain ⟨rfl, staged⟩ := staged_plan compiled
  refine ⟨fun foreign => Plan.stops_of_foreign staged foreign, fun own => ⟨?_, ?_⟩⟩
  · intro fault after failed
    rw [Plan.run_enter_of_own staged own] at failed
    have faults := Plan.faults_of_run laidOut staged own failed
    refine ⟨faults.ne_mismatch, ?_⟩
    rintro expected got rfl
    exact faults.exists_misfit
  · rintro earlier step later progress middle rfl ran
    obtain ⟨now, next, leads, holds⟩ := Staged.reaches laidOut staged own rfl ran
    exact leads.passes own holds

theorem entries_guarded_of_pointX :
    point.build 4 = .ok pointClass ∧ pointX.field ∈ pointClass.layout.fields ∧
      (∃ fault, ((pointX.getPlan .plain).enter (some ⟨0⟩) (.set (.long 11))).run onePoint =
        (.error fault, onePoint)) ∧
      ((pointX.setPlan .plain).enter (some ⟨0⟩) (.set (.int 7))).run onePoint =
        (.error (.wrongValueKind "long" "int"), onePoint) ∧
      ∃ value ∈ (Operand.set (.int 7)).values, value.fits pointX.kind = false := by
  have built : point.build 4 = .ok pointClass := rfl
  have listed : pointX.field ∈ pointClass.layout.fields := .tail _ (.head _)
  have misfit : ((pointX.setPlan .plain).enter (some ⟨0⟩) (.set (.int 7))).run onePoint =
      (.error (.wrongValueKind "long" "int"), onePoint) := rfl
  have reading : pointX.plan .plain .get = .ok (pointX.getPlan .plain) := rfl
  have writing : pointX.plan .plain .set = .ok (pointX.setPlan .plain) := rfl
  have foreign := (entries_guarded built listed reading onePoint (some ⟨0⟩) (.set (.long 11))).1
  have own := (entries_guarded built listed writing onePoint (some ⟨0⟩) (.set (.int 7))).2 rfl
  exact ⟨built, listed, foreign (by decide), misfit, (own.1 _ _ misfit).2 _ _ rfl⟩

end BoundField

end GuestBridge
