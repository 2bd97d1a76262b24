import GuestBridge.Access.Execution
import GuestBridge.Proofs.FieldSlots
import GuestBridge.Proofs.Places

/-!
Reading and writing fields. Every strategy compiles to steps of its own, and all of them mean the
same: the access goes to one place, which the field and the receiver decide, and reads or writes
the cell there. Nothing else is written, and what was written is read by every strategy.
-/
namespace GuestBridge

namespace BoundField

/-- Where an access goes: for a static field to the class's own cell, else to the cell of a
receiver whose class is the very declaring class. -/
def place (field : BoundField) (heap : Heap) (receiver : Option ObjectId) : Except Fault Place :=
  if field.isStatic then .ok (.static field.declaring.layout field.field.slot)
  else
    match receiver with
    | none => .error (.nullReceiver (field.declaring.name ++ "." ++ field.name))
    | some object =>
      if (heap.object object).origin = field.declaring.layout then
        .ok (.field object field.field.slot)
      else .error (.cannotCast (heap.className object) field.declaring.name)

/-- The field names a cell that its class laid out for it. -/
def LaidOut (field : BoundField) : Prop :=
  (field.declaring.layout.storageKinds field.isStatic)[field.field.slot]? = some field.kind

theorem laidOut_of_resolve {definition : ClassDefinition} {identity : Nat} {owner : HostClass}
    {name signature : String} {field : BoundField}
    (built : definition.build identity = .ok owner)
    (resolved : resolve owner name signature = .ok field) : field.LaidOut := by
  unfold resolve at resolved
  cases found : owner.layout.findField? name signature with
  | none => simp [found] at resolved
  | some declared =>
    simp only [found, Except.ok.injEq] at resolved
    subst resolved
    exact ClassDefinition.storageKinds_slot built (List.mem_of_find?_eq_some found)

variable {field : BoundField} {heap : Heap} {receiver : Option ObjectId} {place : Place}

theorem kindAt?_place (laidOut : field.LaidOut) (located : field.place heap receiver = .ok place) :
    heap.kindAt? place = some field.kind := by
  unfold BoundField.place at located
  unfold LaidOut ClassLayout.storageKinds at laidOut
  split at located
  case isTrue static =>
    cases located
    rwa [if_pos static] at laidOut
  case isFalse instance' =>
    cases receiver with
    | none => cases located
    | some object =>
      simp only at located
      split at located
      case isTrue sameClass =>
        cases located
        rwa [if_neg instance', ← sameClass] at laidOut
      case isFalse => cases located

end BoundField

namespace Access

variable {field : BoundField} {heap : Heap} {receiver : Option ObjectId} {place : Place}
  {operand : Operand} {cell : Cell}

theorem run_found {progress : Progress} (present : heap.cell? place = some cell) :
    (Step.run.found progress place).run heap =
      (.ok { progress with found := some place }, heap) := by
  simp only [Step.run.found, Action.run_bind, Action.run_get, Heap.cell_eq present,
    Action.run_liftM, Action.run_pure]

/-- Unboxing asks for nothing more, since a boxed value is an instance of the declaring class. -/
theorem checkReceiver_eq {object : ObjectId} {unbox : Bool}
    (boxed : unbox → field.declaring.layout.isValueType) :
    checkReceiver heap field (some object) unbox =
      if (heap.object object).origin = field.declaring.layout then .ok object
      else .error (.cannotCast (heap.className object) field.declaring.name) := by
  by_cases sameClass : (heap.object object).origin = field.declaring.layout
  · simpa [checkReceiver, sameClass] using boxed
  · simp [checkReceiver, sameClass, Heap.className]

theorem run_locate (laidOut : field.LaidOut) :
    (Step.run field receiver operand {} (locate field)).run heap =
      match field.place heap receiver with
      | .ok place => (.ok { found := some place }, heap)
      | .error fault => (.error fault, heap) := by
  have present {place : Place} (located : field.place heap receiver = .ok place) :
      ∃ cell, heap.cell? place = some cell := by
    obtain ⟨cell, present, -⟩ := Heap.exists_cell (BoundField.kindAt?_place laidOut located)
    exact ⟨cell, present⟩
  unfold locate
  by_cases static : field.isStatic
  · have located : field.place heap receiver =
        .ok (.static field.declaring.layout field.field.slot) := if_pos static
    obtain ⟨cell, present⟩ := present located
    simp only [static, if_true, located, Step.run, run_found present]
  · cases receiver with
    | none =>
      cases field.declaring.layout.isValueType <;>
        simp [static, Step.run, Action.run_bind, checkReceiver, BoundField.place]
    | some object =>
      by_cases sameClass : (heap.object object).origin = field.declaring.layout
      · have located : field.place heap (some object) = .ok (.field object field.field.slot) := by
          simp [BoundField.place, static, sameClass]
        obtain ⟨cell, present⟩ := present located
        cases valueType : field.declaring.layout.isValueType <;>
          simp [static, valueType, Step.run, Action.run_bind, checkReceiver_eq, sameClass, located,
            run_found present]
      · cases valueType : field.declaring.layout.isValueType <;>
          simp [static, valueType, Step.run, Action.run_bind, checkReceiver_eq, sameClass,
            BoundField.place]

/-! Once the cell is found, each step does one thing. -/

section Steps

variable {address found : Option Place} {outcome : Outcome}

theorem run_memoryBarrier (progress : Progress) :
    (Step.run field receiver operand progress .memoryBarrier).run heap = (.ok progress, heap) := rfl

theorem run_loadAddress :
    (Step.run field receiver operand ⟨some place, address, outcome⟩ .loadAddress).run heap =
      (.ok ⟨some place, some place, outcome⟩, heap) := rfl

theorem run_load (present : heap.cell? place = some cell) (ordering : Ordering) :
    (Step.run field receiver operand ⟨some place, address, outcome⟩ (.load ordering)).run heap =
      (.ok ⟨some place, address, .value cell.content⟩, heap) := by
  simp [Step.run, located, Action.run_bind, Heap.run_load present, Except.map]

theorem run_loadIndirect (present : heap.cell? place = some cell) (ordering : Ordering) :
    (Step.run field receiver operand ⟨found, some place, outcome⟩ (.loadIndirect ordering)).run
        heap =
      (.ok ⟨found, some place, .value cell.content⟩, heap) := by
  simp [Step.run, located, Action.run_bind, Heap.run_load present, Except.map]

theorem checkWidth_eq {width : PrimitiveKind} (present : heap.cell? place = some cell)
    (wide : cell.kind = .primitive width) : checkWidth heap place width = .ok () := by
  simp [checkWidth, Heap.cell_eq present, wide, bind, Except.bind, pure, Except.pure]

theorem run_volatileRead {width : PrimitiveKind} (present : heap.cell? place = some cell)
    (wide : cell.kind = .primitive width) :
    (Step.run field receiver operand ⟨found, some place, outcome⟩ (.volatileRead width)).run heap =
      (.ok ⟨found, some place, .value cell.content⟩, heap) := by
  simp [Step.run, located, Action.run_bind, Heap.run_load present, Except.map,
    checkWidth_eq present wide]

def written (progress : Progress) (write : Except Fault Unit × Heap) :
    Except Fault Progress × Heap :=
  (write.1.map fun _ => progress, write.2)

theorem run_store (value : Value) (ordering : Ordering) :
    (Step.run field receiver (.set value) ⟨some place, address, outcome⟩ (.store ordering)).run
        heap =
      written ⟨some place, address, outcome⟩ ((Heap.store place value).run heap) := by
  simp [Step.run, located, Operand.stored, Action.run_bind, written]

theorem run_storeIndirect (value : Value) (ordering : Ordering) :
    (Step.run field receiver (.set value) ⟨found, some place, outcome⟩
        (.storeIndirect ordering)).run heap =
      written ⟨found, some place, outcome⟩ ((Heap.store place value).run heap) := by
  simp [Step.run, located, Operand.stored, Action.run_bind, written]

theorem run_volatileWrite {width : PrimitiveKind} (present : heap.cell? place = some cell)
    (wide : cell.kind = .primitive width) (value : Value) :
    (Step.run field receiver (.set value) ⟨found, some place, outcome⟩
        (.volatileWrite width)).run heap =
      written ⟨found, some place, outcome⟩ ((Heap.store place value).run heap) := by
  simp [Step.run, located, Operand.stored, Action.run_bind, written, checkWidth_eq present wide]

end Steps

theorem kind_of_wideVolatile? {width : PrimitiveKind} (wide : wideVolatile? field = some width) :
    field.kind = .primitive width := by
  unfold wideVolatile? at wide
  split at wide
  · split at wide
    · cases wide
      assumption
    · cases wide
  · cases wide

/-- Whatever the strategy, the steps that read end with the content of the found cell. -/
theorem run_readSteps (receiver : Option ObjectId) (operand : Operand)
    (present : heap.cell? place = some cell) (sameKind : cell.kind = field.kind)
    (strategy : Strategy) :
    ∃ address, ((readSteps field strategy).foldlM (Step.run field receiver operand)
        { found := some place }).run heap =
      (.ok ⟨some place, address, .value cell.content⟩, heap) := by
  unfold readSteps
  split
  case h_1 =>
    refine ⟨some place, ?_⟩
    split
    case h_1 width primitive =>
      simp [Action.run_bind, run_loadAddress, run_volatileRead present (sameKind.trans primitive)]
    case h_2 =>
      simp [Action.run_bind, run_loadAddress, run_memoryBarrier, run_loadIndirect present]
  case h_2 width _ wide =>
    refine ⟨some place, ?_⟩
    simp [Action.run_bind, run_loadAddress,
      run_volatileRead present (sameKind.trans (kind_of_wideVolatile? wide))]
  case h_3 =>
    by_cases byAddress : field.isStatic && field.isFinal
    · refine ⟨some place, ?_⟩
      cases field.isVolatile <;>
        simp [byAddress, Action.run_bind, run_loadAddress, run_memoryBarrier,
          run_loadIndirect present]
    · refine ⟨none, ?_⟩
      cases field.isVolatile <;>
        simp [byAddress, Action.run_bind, run_memoryBarrier, run_load present]
  case h_4 =>
    refine ⟨none, ?_⟩
    cases field.isVolatile <;> simp [Action.run_bind, run_memoryBarrier, run_load present]

/-- Whatever the strategy, the steps that write do nothing but one store to the found cell. -/
theorem run_writeSteps (receiver : Option ObjectId) (present : heap.cell? place = some cell)
    (sameKind : cell.kind = field.kind) (value : Value) (strategy : Strategy) :
    ∃ address, ((writeSteps field strategy).foldlM (Step.run field receiver (.set value))
        { found := some place }).run heap =
      written ⟨some place, address, .stored⟩ ((Heap.store place value).run heap) := by
  unfold writeSteps
  split
  case h_1 =>
    refine ⟨some place, ?_⟩
    split
    case h_1 width primitive =>
      simp [Action.run_bind, run_loadAddress, run_volatileWrite present (sameKind.trans primitive)]
    case h_2 =>
      simp only [List.foldlM_cons, List.foldlM_nil, Action.run_bind, run_loadAddress,
        run_storeIndirect, run_memoryBarrier, Action.run_pure]
      rcases (Heap.store place value).run heap with ⟨fault | done, after⟩ <;> rfl
  case h_2 width _ wide =>
    refine ⟨some place, ?_⟩
    simp [Action.run_bind, run_loadAddress,
      run_volatileWrite present (sameKind.trans (kind_of_wideVolatile? wide))]
  case h_3 =>
    refine ⟨none, ?_⟩
    cases field.isVolatile
    · simp [run_store]
    · simp only [if_true, List.foldlM_cons, List.foldlM_nil, Action.run_bind, run_store,
        run_memoryBarrier, Action.run_pure]
      rcases (Heap.store place value).run heap with ⟨fault | done, after⟩ <;> rfl

theorem run_plan_of_fault {fault : Fault} (laidOut : field.LaidOut)
    (refused : field.place heap receiver = .error fault) (operand : Operand) (steps : List Step) :
    (Plan.run ⟨field, locate field :: steps⟩ receiver operand).run heap = (.error fault, heap) := by
  simp only [Plan.run, List.foldlM_cons, Action.run_bind, run_locate laidOut, refused]

theorem run_plan_of_place (laidOut : field.LaidOut)
    (reached : field.place heap receiver = .ok place) (operand : Operand) (steps : List Step) :
    (Plan.run ⟨field, locate field :: steps⟩ receiver operand).run heap =
      (Progress.outcome <$> steps.foldlM (Step.run field receiver operand)
        { found := some place }).run heap := by
  simp [Plan.run, Action.run_bind, run_locate laidOut, reached]

end Access

namespace BoundField

open Access

variable {field : BoundField} {heap : Heap} {receiver : Option ObjectId} {place : Place}
  {cell : Cell}

theorem run_get_of_fault {fault : Fault} (laidOut : field.LaidOut)
    (refused : field.place heap receiver = .error fault) (strategy : Strategy) :
    (field.get strategy receiver).run heap = (.error fault, heap) := by
  simp only [get, getPlan, Plan.get, Action.run_bind, run_plan_of_fault laidOut refused]

theorem run_set_of_fault {fault : Fault} (laidOut : field.LaidOut)
    (refused : field.place heap receiver = .error fault) (strategy : Strategy) (value : Value) :
    (field.set strategy receiver value).run heap = (.error fault, heap) := by
  simp only [set, setPlan, Plan.set, Action.run_bind, run_plan_of_fault laidOut refused]

theorem run_get_of_place (laidOut : field.LaidOut)
    (reached : field.place heap receiver = .ok place) (present : heap.cell? place = some cell)
    (sameKind : cell.kind = field.kind) (strategy : Strategy) :
    (field.get strategy receiver).run heap = (.ok cell.content, heap) := by
  obtain ⟨address, read⟩ := run_readSteps receiver .get present sameKind strategy
  simp [get, getPlan, Plan.get, Action.run_bind, run_plan_of_place laidOut reached, read,
    Except.map]

theorem run_set_of_place (laidOut : field.LaidOut)
    (reached : field.place heap receiver = .ok place) (present : heap.cell? place = some cell)
    (sameKind : cell.kind = field.kind) (strategy : Strategy) (value : Value) :
    (field.set strategy receiver value).run heap = (Heap.store place value).run heap := by
  obtain ⟨address, write⟩ := run_writeSteps receiver present sameKind value strategy
  simp only [set, setPlan, Plan.set, Action.run_bind, run_plan_of_place laidOut reached,
    Action.run_map, write, written]
  rcases (Heap.store place value).run heap with ⟨fault | done, after⟩ <;> rfl

/-- A write leaves every object in its class, so accesses go where they went before. -/
theorem place_of_differsAt {written : Place} {after : Heap}
    (changed : Heap.DiffersAt written heap after) :
    field.place after receiver = field.place heap receiver := by
  simp only [BoundField.place, Heap.className, changed.origin_eq]

/-- All strategies mean the same. A refused access fails alike and changes nothing. Otherwise there
is a cell of the field's kind, every get answers its content and leaves the heap as it is, and a
set fails where the value does not fit, else it writes that cell only and every get answers the
value. -/
theorem access_meaning {definition : ClassDefinition} {identity : Nat} {owner : HostClass}
    {name signature : String} (built : definition.build identity = .ok owner)
    (resolved : resolve owner name signature = .ok field) (heap : Heap)
    (receiver : Option ObjectId) (value : Value) :
    (∀ fault, field.place heap receiver = .error fault → ∀ strategy,
      (field.get strategy receiver).run heap = (.error fault, heap) ∧
        (field.set strategy receiver value).run heap = (.error fault, heap)) ∧
    ∀ place, field.place heap receiver = .ok place →
      ∃ cell, heap.cell? place = some cell ∧ cell.kind = field.kind ∧
        (∀ strategy, (field.get strategy receiver).run heap = (.ok cell.content, heap)) ∧
        (value.fits field.kind = false → ∀ strategy,
          (field.set strategy receiver value).run heap =
            (.error (.wrongValueKind field.kind.keyword value.kindName), heap)) ∧
        (∀ fits : value.fits field.kind = true, ∃ after,
          (∀ strategy, (field.set strategy receiver value).run heap = (.ok (), after)) ∧
          Heap.DiffersAt place heap after ∧ after.cell? place = some ⟨field.kind, value, fits⟩ ∧
          ∀ strategy, (field.get strategy receiver).run after = (.ok value, after)) := by
  have laidOut := laidOut_of_resolve built resolved
  refine ⟨fun fault refused strategy => ⟨run_get_of_fault laidOut refused strategy,
    run_set_of_fault laidOut refused strategy value⟩, fun place reached => ?_⟩
  have kindAt := kindAt?_place laidOut reached
  obtain ⟨cell, present, sameKind⟩ := Heap.exists_cell kindAt
  have store (strategy : Strategy) :=
    run_set_of_place laidOut reached present sameKind strategy value
  refine ⟨cell, present, sameKind,
    run_get_of_place laidOut reached present sameKind, fun misfit strategy => ?_, fun fits => ?_⟩
  · rw [store, Heap.run_store present, dif_neg (by simp [sameKind, misfit])]
    rw [Cell.mismatch, sameKind]
  · have changed := Heap.differsAt_setCell heap place ⟨field.kind, value, fits⟩
    have written : (heap.setCell ⟨field.kind, value, fits⟩ place).cell? place =
        some ⟨field.kind, value, fits⟩ := Heap.cell?_setCell_same kindAt
    refine ⟨heap.setCell ⟨field.kind, value, fits⟩ place, fun strategy => ?_, changed, written, ?_⟩
    · rw [store, Heap.run_store present]
      simp only [sameKind]
      rw [dif_pos fits]
    · have reachedAfter := (place_of_differsAt changed).trans reached
      exact run_get_of_place laidOut reachedAfter written rfl

/-- A boxed point with a volatile 64-bit coordinate, beside a static count. -/
def point : ClassDefinition where
  name := "demo.Point"
  isValueType := true
  fields := [⟨"count", "I", { isStatic := true }⟩, ⟨"x", "J", { isVolatile := true }⟩]

def pointClass : HostClass where
  layout := ⟨4, "demo.Point", true,
    [⟨"count", "I", .primitive .int, { isStatic := true }, 0⟩,
      ⟨"x", "J", .primitive .long, { isVolatile := true }, 0⟩]⟩
  methods := []
  constructors := []

def pointX : BoundField := ⟨pointClass, ⟨"x", "J", .primitive .long, { isVolatile := true }, 0⟩⟩

def onePoint : Heap := { objects := #[.ofLayout pointClass.layout none] }

theorem pointX_access :
    point.build 4 = .ok pointClass ∧ resolve pointClass "x" "J" = .ok pointX ∧
      pointX.place onePoint (some ⟨0⟩) = .ok (.field ⟨0⟩ 0) ∧
      ∃ after, (∀ strategy,
        (pointX.set strategy (some ⟨0⟩) (.long 11)).run onePoint = (.ok (), after)) ∧
        ∀ strategy, (pointX.get strategy (some ⟨0⟩)).run after = (.ok (.long 11), after) := by
  have built : point.build 4 = .ok pointClass := rfl
  have resolved : resolve pointClass "x" "J" = .ok pointX := rfl
  have reached : pointX.place onePoint (some ⟨0⟩) = .ok (.field ⟨0⟩ 0) := rfl
  obtain ⟨cell, -, -, -, -, fitting⟩ :=
    (access_meaning built resolved onePoint (some ⟨0⟩) (.long 11)).2 _ reached
  obtain ⟨after, stored, -, -, read⟩ := fitting rfl
  exact ⟨built, resolved, reached, after, stored, read⟩

end BoundField

end GuestBridge
