import GuestBridge.Access.Plan

/-!
Running access plans. A plan can be run as a get, a set or a compare-and-swap; running it as
another kind than it was compiled for fails at the step that lacks its operand, or at the end when
the outcome is of the wrong sort. Steps before the failing one have run.
-/
namespace GuestBridge.Access

/-- What a run brings along. -/
inductive Operand where
  | get
  | set (value : Value)
  | exchange (expected update : Value)

inductive Outcome where
  | value (value : Value)
  | stored
  | exchanged (swapped : Bool)

def mismatch (expected : String) : Fault := .wrongValueKind expected "mismatched access plan"

def Operand.stored : Operand → Except Fault Value
  | set value => .ok value
  | _ => .error (mismatch "store operand")

def Operand.exchanged : Operand → Except Fault (Value × Value)
  | exchange expected update => .ok (expected, update)
  | _ => .error (mismatch "compare-and-swap operands")

/-- How far a run has come: the cell found, the address taken of it, and the outcome so far. -/
structure Progress where
  found : Option Place := none
  address : Option Place := none
  outcome : Outcome := .stored

def located (place : Option Place) : Except Fault Place :=
  match place with
  | some place => .ok place
  | none => .error (mismatch "located field")

/-- The receiver must be an instance of the declaring class itself. -/
def checkReceiver (heap : Heap) (field : BoundField) (receiver : Option ObjectId) (unbox : Bool) :
    Except Fault ObjectId :=
  match receiver with
  | none => .error (.nullReceiver (field.declaring.name ++ "." ++ field.name))
  | some object =>
    let origin := (heap.object object).origin
    if origin ≠ field.declaring.layout ∨ (unbox ∧ ¬ origin.isValueType) then
      .error (.cannotCast origin.name field.declaring.name)
    else .ok object

/-- The cell at the address, which must be of the given width. -/
def checkWidth (heap : Heap) (place : Place) (width : PrimitiveKind) : Except Fault Unit := do
  let cell ← heap.cell place
  if cell.kind = .primitive width then return ()
  else throw (.wrongValueKind width.keyword cell.kind.keyword)

def Step.run (field : BoundField) (receiver : Option ObjectId) (operand : Operand)
    (progress : Progress) : Step → Action Heap Fault Progress
  | .loadStatic => found (.static field.declaring.layout field.field.slot)
  | .loadReceiver => do
    let object ← checkReceiver (← get) field receiver false
    found (.field object field.field.slot)
  | .unbox => do
    let object ← checkReceiver (← get) field receiver true
    found (.field object field.field.slot)
  | .memoryBarrier => return progress
  | .loadAddress => do
    let place ← located progress.found
    return { progress with address := some place }
  | .load _ => do
    let place ← located progress.found
    return { progress with outcome := .value (← Heap.load place) }
  | .store _ => do
    let place ← located progress.found
    Heap.store place (← operand.stored)
    return progress
  | .loadIndirect _ => do
    let place ← located progress.address
    return { progress with outcome := .value (← Heap.load place) }
  | .storeIndirect _ => do
    let place ← located progress.address
    Heap.store place (← operand.stored)
    return progress
  | .volatileRead width => do
    let place ← located progress.address
    checkWidth (← get) place width
    return { progress with outcome := .value (← Heap.load place) }
  | .volatileWrite width => do
    let place ← located progress.address
    checkWidth (← get) place width
    Heap.store place (← operand.stored)
    return progress
  | .compareExchange _ => do
    let (expected, update) ← operand.exchanged
    let place ← located progress.address
    return { progress with outcome := .exchanged (← Heap.exchange place expected update) }
where
  found (place : Place) : Action Heap Fault Progress := do
    let _ ← (← get).cell place
    return { progress with found := some place }

namespace Plan

def run (plan : Plan) (receiver : Option ObjectId) (operand : Operand) :
    Action Heap Fault Outcome := do
  let finished ← plan.steps.foldlM (Step.run plan.target receiver operand) {}
  return finished.outcome

def get (plan : Plan) (receiver : Option ObjectId) : Action Heap Fault Value := do
  match ← plan.run receiver .get with
  | .value value => return value
  | _ => throw (mismatch "get plan")

def set (plan : Plan) (receiver : Option ObjectId) (value : Value) : Action Heap Fault Unit := do
  match ← plan.run receiver (.set value) with
  | .stored => return ()
  | _ => throw (mismatch "set plan")

def exchange (plan : Plan) (receiver : Option ObjectId) (expected update : Value) :
    Action Heap Fault Bool := do
  match ← plan.run receiver (.exchange expected update) with
  | .exchanged swapped => return swapped
  | _ => throw (mismatch "compare-and-swap plan")

end Plan

end GuestBridge.Access

namespace GuestBridge.BoundField

open Access

def get (field : BoundField) (strategy : Strategy) (receiver : Option ObjectId) :
    Action Heap Fault Value :=
  (field.getPlan strategy).get receiver

def set (field : BoundField) (strategy : Strategy) (receiver : Option ObjectId) (value : Value) :
    Action Heap Fault Unit :=
  (field.setPlan strategy).set receiver value

/-- True exactly when the field held the expected value and now holds the update. -/
def exchange (field : BoundField) (receiver : Option ObjectId) (expected update : Value) :
    Action Heap Fault Bool := do
  let plan ← field.exchangePlan
  plan.exchange receiver expected update

end GuestBridge.BoundField
