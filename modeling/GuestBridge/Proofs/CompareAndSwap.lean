import GuestBridge.Proofs.FieldAccess

/-!
Compare-and-swap on fields. The kind of the field is looked at first, then the receiver, then the
operands, and only then the content of the cell. Two values are the same when a get cannot tell
them apart: doubles by their bits, references by identity.
-/
namespace GuestBridge

def unexchangeable : List FieldKind :=
  [.primitive .boolean, .primitive .byte, .primitive .char, .primitive .short, .primitive .float]

theorem mem_unexchangeable {kind : FieldKind} :
    kind ∈ unexchangeable ↔ kind.isExchangeable = false := by
  rcases kind with (_ | _ | _ | _ | _ | _ | _ | _) | _ <;> decide

/-- The first operand that a cell of this kind cannot hold, the expected value before the update. -/
def Value.firstMisfit? (kind : FieldKind) (expected update : Value) : Option Value :=
  [expected, update].find? fun operand => !operand.fits kind

theorem Value.firstMisfit?_eq (kind : FieldKind) (expected update : Value) :
    firstMisfit? kind expected update =
      if expected.fits kind = false then some expected
      else if update.fits kind = false then some update
      else none := by
  cases first : expected.fits kind <;> cases second : update.fits kind <;>
    simp [firstMisfit?, first, second]

namespace Cell

variable {cell : Cell} {expected update : Value}

theorem exchange_of_misfit {operand : Value} (exchangeable : cell.kind.isExchangeable = true)
    (misfit : Value.firstMisfit? cell.kind expected update = some operand) :
    cell.exchange expected update = .error (cell.mismatch operand) := by
  rw [Value.firstMisfit?_eq] at misfit
  unfold exchange
  rw [if_neg (by simp [exchangeable])]
  split at misfit
  case isTrue first =>
    cases misfit
    exact if_pos first
  case isFalse first =>
    rw [if_neg first]
    split at misfit
    case isTrue second =>
      cases misfit
      exact dif_neg (by simp [second])
    case isFalse => cases misfit

theorem exchange_of_fits (exchangeable : cell.kind.isExchangeable = true)
    (fitting : Value.firstMisfit? cell.kind expected update = none) :
    ∃ fits : update.fits cell.kind = true,
      cell.exchange expected update =
        if cell.content = expected then .ok (true, ⟨cell.kind, update, fits⟩)
        else .ok (false, cell) := by
  rw [Value.firstMisfit?_eq] at fitting
  split at fitting
  case isTrue => cases fitting
  case isFalse first =>
    split at fitting
    case isTrue => cases fitting
    case isFalse second =>
      have fits : update.fits cell.kind = true := by simpa using second
      exact ⟨fits, by rw [exchange, if_neg (by simp [exchangeable]), if_neg first, dif_pos fits]⟩

/-- The two zeros of a double are different values here. -/
example : exchange ⟨.primitive .double, .double 0, rfl⟩ (.double 0x8000000000000000) (.double 1) =
    .ok (false, ⟨.primitive .double, .double 0, rfl⟩) := by
  decide

end Cell

namespace BoundField

open Access

variable {field : BoundField} {heap : Heap} {receiver : Option ObjectId} {place : Place}
  {cell : Cell} {expected update : Value}

theorem fault_of_place {fault : Fault} (refused : field.place heap receiver = .error fault) :
    (∃ text, fault = .nullReceiver text) ∨ ∃ text, fault = .classCast text := by
  unfold place at refused
  split at refused
  · cases refused
  · split at refused
    · cases refused
      exact .inl ⟨_, rfl⟩
    · split at refused
      · cases refused
      · cases refused
        exact .inr ⟨_, rfl⟩

theorem run_exchange_of_kind (unsupported : field.kind.isExchangeable = false) :
    (field.exchange receiver expected update).run heap =
      (.error (.unsupportedExchange field.kind.keyword), heap) := by
  simp [exchange, exchangePlan, unsupported, Action.run_bind]

theorem run_exchange_of_fault {fault : Fault} (exchangeable : field.kind.isExchangeable = true)
    (laidOut : field.LaidOut) (refused : field.place heap receiver = .error fault) :
    (field.exchange receiver expected update).run heap = (.error fault, heap) := by
  simp [exchange, exchangePlan, exchangeable, Plan.exchange, Action.run_bind,
    run_plan_of_fault laidOut refused]

theorem run_exchange_of_place (exchangeable : field.kind.isExchangeable = true)
    (laidOut : field.LaidOut) (reached : field.place heap receiver = .ok place) :
    (field.exchange receiver expected update).run heap =
      (Heap.exchange place expected update).run heap := by
  simp only [exchange, exchangePlan, exchangeable, if_true, Plan.exchange, Action.run_bind,
    Action.run_liftM, run_plan_of_place laidOut reached, Action.run_map, List.foldlM_cons,
    List.foldlM_nil, Step.run, Operand.exchanged, located, Action.run_pure]
  rcases (Heap.exchange place expected update).run heap with ⟨fault | swapped, after⟩ <;> rfl

/-- All that a compare-and-swap can come to: its answer and the heap after it. -/
inductive Exchanges (field : BoundField) (heap : Heap) (receiver : Option ObjectId)
    (expected update : Value) : Except Fault Bool × Heap → Prop where
  | unsupported (kind : field.kind ∈ unexchangeable) :
    Exchanges field heap receiver expected update
      (.error (.unsupportedExchange field.kind.keyword), heap)
  | refused {fault : Fault} (kind : field.kind ∉ unexchangeable)
    (refused : field.place heap receiver = .error fault) :
    Exchanges field heap receiver expected update (.error fault, heap)
  | misfit {place : Place} {cell : Cell} {operand : Value} (kind : field.kind ∉ unexchangeable)
    (reached : field.place heap receiver = .ok place) (present : heap.cell? place = some cell)
    (sameKind : cell.kind = field.kind)
    (misfit : Value.firstMisfit? field.kind expected update = some operand) :
    Exchanges field heap receiver expected update
      (.error (.wrongValueKind field.kind.keyword operand.kindName), heap)
  | different {place : Place} {cell : Cell} (kind : field.kind ∉ unexchangeable)
    (reached : field.place heap receiver = .ok place) (present : heap.cell? place = some cell)
    (sameKind : cell.kind = field.kind)
    (fitting : Value.firstMisfit? field.kind expected update = none)
    (different : cell.content ≠ expected) :
    Exchanges field heap receiver expected update (.ok false, heap)
  | swapped {place : Place} {cell : Cell} (kind : field.kind ∉ unexchangeable)
    (reached : field.place heap receiver = .ok place) (present : heap.cell? place = some cell)
    (sameKind : cell.kind = field.kind)
    (fitting : Value.firstMisfit? field.kind expected update = none)
    (same : cell.content = expected) (fits : update.fits field.kind = true) :
    Exchanges field heap receiver expected update
      (.ok true, heap.setCell ⟨field.kind, update, fits⟩ place)

theorem exchanges_run (laidOut : field.LaidOut) (heap : Heap) (receiver : Option ObjectId)
    (expected update : Value) :
    Exchanges field heap receiver expected update
      ((field.exchange receiver expected update).run heap) := by
  by_cases kind : field.kind ∈ unexchangeable
  · rw [run_exchange_of_kind (mem_unexchangeable.1 kind)]
    exact .unsupported kind
  have exchangeable : field.kind.isExchangeable = true := by simpa [mem_unexchangeable] using kind
  cases reached : field.place heap receiver with
  | error fault =>
    rw [run_exchange_of_fault exchangeable laidOut reached]
    exact .refused kind reached
  | ok place =>
    obtain ⟨cell, present, sameKind⟩ := Heap.exists_cell (kindAt?_place laidOut reached)
    rw [run_exchange_of_place exchangeable laidOut reached, Heap.run_exchange present]
    rw [← sameKind] at exchangeable
    cases fitting : Value.firstMisfit? field.kind expected update with
    | some operand =>
      rw [Cell.exchange_of_misfit exchangeable (by rw [sameKind, fitting]), Cell.mismatch, sameKind]
      exact .misfit kind reached present sameKind fitting
    | none =>
      obtain ⟨fits, exchanged⟩ := Cell.exchange_of_fits exchangeable (by rw [sameKind, fitting])
      rw [exchanged]
      by_cases same : cell.content = expected
      · simp only [same, if_true, sameKind]
        exact .swapped kind reached present sameKind fitting same (sameKind ▸ fits)
      · simp only [same, if_false, Bool.false_eq_true]
        exact .different kind reached present sameKind fitting same

/-- What guests rely on in a compare-and-swap, told by what gets of the field answer. -/
structure ExchangeMeaning (field : BoundField) (heap : Heap) (receiver : Option ObjectId)
    (expected update : Value) (outcome : Except Fault Bool) (after : Heap) : Prop where
  unsupported_iff : (∃ text, outcome = .error (.unsupportedExchange text)) ↔
    field.kind ∈ unexchangeable
  nullReceiver_iff : field.kind ∉ unexchangeable → ∀ strategy text,
    outcome = .error (.nullReceiver text) ↔
      ((field.get strategy receiver).run heap).1 = .error (.nullReceiver text)
  classCast_iff : field.kind ∉ unexchangeable → ∀ strategy text,
    outcome = .error (.classCast text) ↔
      ((field.get strategy receiver).run heap).1 = .error (.classCast text)
  /-- With a receiver that a get accepts, the operands are looked at and then the content. -/
  otherwise : field.kind ∉ unexchangeable → ∀ strategy,
    (∃ text, outcome = .error (.nullReceiver text)) ∨ (∃ text, outcome = .error (.classCast text)) ∨
      ∃ current, ((field.get strategy receiver).run heap).1 = .ok current ∧
        (∀ wanted got, outcome = .error (.wrongValueKind wanted got) ↔
          ∃ operand, Value.firstMisfit? field.kind expected update = some operand ∧
            wanted = field.kind.keyword ∧ got = operand.kindName) ∧
        (Value.firstMisfit? field.kind expected update = none →
          outcome = .ok (decide (current = expected)))
  unchanged : outcome ≠ .ok true → after = heap
  swapped : outcome = .ok true → ∃ place, field.place heap receiver = .ok place ∧
    Heap.DiffersAt place heap after ∧
      ∀ strategy, (field.get strategy receiver).run after = (.ok update, after)

theorem meaning_of_fault {fault : Fault} (laidOut : field.LaidOut)
    (kind : field.kind ∉ unexchangeable) (refused : field.place heap receiver = .error fault) :
    ExchangeMeaning field heap receiver expected update (.error fault) heap := by
  have read (strategy : Strategy) := run_get_of_fault laidOut refused strategy
  have reason := fault_of_place refused
  constructor
  case unsupported_iff =>
    rcases reason with ⟨_, rfl⟩ | ⟨_, rfl⟩ <;> simp [kind]
  case nullReceiver_iff => simp [read]
  case classCast_iff => simp [read]
  case otherwise =>
    intro _ strategy
    rcases reason with ⟨text, rfl⟩ | ⟨text, rfl⟩
    · exact .inl ⟨text, rfl⟩
    · exact .inr (.inl ⟨text, rfl⟩)
  case unchanged => simp
  case swapped => simp

/-- Once the cell is found, what is left to say is how the operands and the content decide. -/
theorem meaning_of_cell {outcome : Except Fault Bool} {after : Heap} (laidOut : field.LaidOut)
    (kind : field.kind ∉ unexchangeable) (reached : field.place heap receiver = .ok place)
    (present : heap.cell? place = some cell) (sameKind : cell.kind = field.kind)
    (misfit : ∀ operand, Value.firstMisfit? field.kind expected update = some operand →
      outcome = .error (.wrongValueKind field.kind.keyword operand.kindName))
    (fitting : Value.firstMisfit? field.kind expected update = none →
      outcome = .ok (decide (cell.content = expected)))
    (unchanged : outcome ≠ .ok true → after = heap)
    (swapped : outcome = .ok true → Heap.DiffersAt place heap after ∧
      ∃ written, after.cell? place = some written ∧ written.kind = field.kind ∧
        written.content = update) :
    ExchangeMeaning field heap receiver expected update outcome after := by
  have read (strategy : Strategy) := run_get_of_place laidOut reached present sameKind strategy
  cases first : Value.firstMisfit? field.kind expected update with
  | some operand =>
    have failed := misfit operand first
    subst failed
    refine ⟨by simp [kind], by simp [read], by simp [read], fun _ strategy => ?_, unchanged,
      by simp⟩
    refine .inr (.inr ⟨cell.content, by rw [read], fun wanted got => ?_, by simp [first]⟩)
    simp [first, eq_comm]
  | none =>
    have answered := fitting first
    subst answered
    refine ⟨by simp [kind], by simp [read], by simp [read], fun _ strategy => ?_, unchanged,
      fun same => ?_⟩
    · refine .inr (.inr ⟨cell.content, by rw [read], by simp [first], fun _ => rfl⟩)
    · obtain ⟨changed, written, stored, storedKind, content⟩ := swapped same
      refine ⟨place, reached, changed, fun strategy => ?_⟩
      rw [← content]
      exact run_get_of_place laidOut ((place_of_differsAt changed).trans reached) stored storedKind
        strategy

theorem meaning_of_exchanges {result : Except Fault Bool × Heap} (laidOut : field.LaidOut)
    (exchanges : Exchanges field heap receiver expected update result) :
    ExchangeMeaning field heap receiver expected update result.1 result.2 := by
  cases exchanges with
  | unsupported kind =>
    exact ⟨by simp [kind], fun other => absurd kind other, fun other => absurd kind other,
      fun other => absurd kind other, fun _ => rfl, by simp⟩
  | refused kind refused => exact meaning_of_fault laidOut kind refused
  | misfit kind reached present sameKind misfit =>
    exact meaning_of_cell laidOut kind reached present sameKind (by simp [misfit])
      (by simp [misfit]) (fun _ => rfl) (by simp)
  | different kind reached present sameKind fitting different =>
    exact meaning_of_cell laidOut kind reached present sameKind (by simp [fitting])
      (by simp [different]) (fun _ => rfl) (by simp)
  | swapped kind reached present sameKind fitting same fits =>
    have written : (heap.setCell ⟨field.kind, update, fits⟩ _).cell? _ =
        some ⟨field.kind, update, fits⟩ := Heap.cell?_setCell_same (kindAt?_place laidOut reached)
    exact meaning_of_cell laidOut kind reached present sameKind (by simp [fitting]) (by simp [same])
      (by simp) fun _ => ⟨Heap.differsAt_setCell heap _ _, _, written, rfl, rfl⟩

/-- A compare-and-swap looks at the kind of the field, then as a get does at the receiver, then at
the operands, and answers whether the field read as expected. Only then the update is written, to
the cell of the field and nowhere else. -/
theorem exchange_meaning {definition : ClassDefinition} {identity : Nat} {owner : HostClass}
    {name signature : String} (built : definition.build identity = .ok owner)
    (resolved : resolve owner name signature = .ok field) (heap : Heap)
    (receiver : Option ObjectId) (expected update : Value) :
    ExchangeMeaning field heap receiver expected update
      ((field.exchange receiver expected update).run heap).1
      ((field.exchange receiver expected update).run heap).2 := by
  have laidOut := laidOut_of_resolve built resolved
  exact meaning_of_exchanges laidOut (exchanges_run laidOut heap receiver expected update)

theorem pointX_exchange :
    point.build 4 = .ok pointClass ∧ resolve pointClass "x" "J" = .ok pointX ∧
      ∃ place after, (pointX.exchange (some ⟨0⟩) (.long 0) (.long 11)).run onePoint =
        (.ok true, after) ∧ Heap.DiffersAt place onePoint after ∧
        ∀ strategy, (pointX.get strategy (some ⟨0⟩)).run after = (.ok (.long 11), after) := by
  have built : point.build 4 = .ok pointClass := rfl
  have resolved : resolve pointClass "x" "J" = .ok pointX := rfl
  have meaning := exchange_meaning built resolved onePoint (some ⟨0⟩) (.long 0) (.long 11)
  have answered : ((pointX.exchange (some ⟨0⟩) (.long 0) (.long 11)).run onePoint).1 = .ok true :=
    rfl
  obtain ⟨place, -, changed, read⟩ := meaning.swapped answered
  exact ⟨built, resolved, place, _, Prod.ext answered rfl, changed, read⟩

end BoundField

end GuestBridge
