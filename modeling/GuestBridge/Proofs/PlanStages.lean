import GuestBridge.Proofs.Actions
import GuestBridge.Proofs.CompareAndSwap

/-!
Plans in stages. A run starts with nothing, finds the cell, may take its address and then goes to
its content, once. The steps guard against coming too early, against an operand of another kind and
against a cell of another width; a step whose guard refuses has changed nothing. Compiled plans come
in order, and in a plan that does, run with an operand of its own kind, no guard ever refuses.
-/
namespace GuestBridge.Access

/-- What a run is made for. -/
inductive Purpose where
  | get
  | set
  | exchange
  deriving DecidableEq

namespace Operand

def purpose : Operand → Purpose
  | get => .get
  | set _ => .set
  | exchange _ _ => .exchange

def values : Operand → List Value
  | get => []
  | set value => [value]
  | exchange expected update => [expected, update]

/-- The ways in which an access of a field of this kind may fail. -/
inductive Faults (operand : Operand) (kind : FieldKind) : Fault → Prop where
  | nullReceiver (text : String) : Faults operand kind (.nullReceiver text)
  | classCast (text : String) : Faults operand kind (.classCast text)
  | unsupportedExchange (text : String) : Faults operand kind (.unsupportedExchange text)
  | misfit {value : Value} (given : value ∈ operand.values) (misfit : value.fits kind = false) :
    Faults operand kind (.wrongValueKind kind.keyword value.kindName)

theorem Faults.ne_mismatch {operand : Operand} {kind : FieldKind} {fault : Fault}
    (faults : operand.Faults kind fault) (expected : String) : fault ≠ mismatch expected := by
  cases faults with
  | nullReceiver | classCast | unsupportedExchange => rintro ⟨⟩
  | @misfit value given misfit =>
    intro same
    have named : value.kindName = "mismatched access plan" := (Fault.wrongValueKind.inj same).2
    cases value <;> simp [Value.kindName, Value.kind?, FieldKind.keyword, PrimitiveKind.keyword]
      at named

theorem Faults.exists_misfit {operand : Operand} {kind : FieldKind} {expected got : String}
    (faults : operand.Faults kind (.wrongValueKind expected got)) :
    ∃ value ∈ operand.values, value.fits kind = false := by
  cases faults with
  | misfit given misfit => exact ⟨_, given, misfit⟩

variable {operand : Operand}

theorem purpose_of_stored {value : Value} (given : operand.stored = .ok value) :
    operand.purpose = .set := by
  cases operand with
  | set value => rfl
  | get | exchange => cases given

theorem purpose_of_exchanged {pair : Value × Value} (given : operand.exchanged = .ok pair) :
    operand.purpose = .exchange := by
  cases operand with
  | exchange expected update => rfl
  | get | set => cases given

end Operand

def Outcome.purpose : Outcome → Purpose
  | value _ => .get
  | stored => .set
  | exchanged _ => .exchange

theorem eq_some_of_located {place? : Option Place} {place : Place}
    (found : located place? = .ok place) : place? = some place := by
  cases place? with
  | none => cases found
  | some known => exact congrArg some (Except.ok.inj found)

theorem isSome_of_located {place? : Option Place} {place : Place}
    (found : located place? = .ok place) : place?.isSome := by
  rw [eq_some_of_located found]
  rfl

namespace Step

def writes : Step → Bool
  | store _ | storeIndirect _ | volatileWrite _ | compareExchange _ => true
  | _ => false

open GuestBridge.Action in
theorem readsOnly_run {step : Step} (reads : step.writes = false) (field : BoundField)
    (receiver : Option ObjectId) (operand : Operand) (progress : Progress) :
    (Step.run field receiver operand progress step).ReadsOnly := by
  have found (place : Place) : (Step.run.found progress place).ReadsOnly :=
    .bind .get fun heap => .bind (.liftM (heap.cell place)) fun _ => .pure _
  have checked (unbox : Bool) : ReadsOnly (do
      let object ← checkReceiver (← get) field receiver unbox
      Step.run.found progress (.field object field.field.slot) : Action Heap Fault Progress) :=
    .bind .get fun heap => .bind (.liftM (checkReceiver heap field receiver unbox)) fun _ => found _
  have loaded (place : Place) : (Heap.load place).ReadsOnly :=
    .bind .get fun heap => .bind (.liftM (heap.cell place)) fun _ => .pure _
  have width (place : Place) (wanted : PrimitiveKind) : ReadsOnly (do
      checkWidth (← get) place wanted
      return { progress with outcome := .value (← Heap.load place) } :
        Action Heap Fault Progress) :=
    .bind .get fun heap => .bind (.liftM (checkWidth heap place wanted)) fun _ =>
      .bind (loaded place) fun _ => .pure _
  cases step with
  | store | storeIndirect | volatileWrite | compareExchange => cases reads
  | loadStatic => exact found _
  | loadReceiver => exact checked false
  | unbox => exact checked true
  | memoryBarrier => exact .pure _
  | loadAddress => exact .bind (.liftM _) fun _ => .pure _
  | load => exact .bind (.liftM _) fun place => .bind (loaded place) fun _ => .pure _
  | loadIndirect => exact .bind (.liftM _) fun place => .bind (loaded place) fun _ => .pure _
  | volatileRead wanted => exact .bind (.liftM _) fun place => width place wanted

/-- The guards of a step let it pass: what it works on has been found, the cell is as wide as it is
to be, and the operand is of the step's kind. What is asked of the receiver and of the values is no
guard. -/
def Passes (operand : Operand) (progress : Progress) (heap : Heap) : Step → Prop
  | loadStatic | loadReceiver | unbox | memoryBarrier => True
  | loadAddress | load _ => progress.found.isSome
  | store _ => progress.found.isSome ∧ operand.purpose = .set
  | loadIndirect _ => progress.address.isSome
  | storeIndirect _ => progress.address.isSome ∧ operand.purpose = .set
  | volatileRead width => ∃ place ∈ progress.address, checkWidth heap place width = .ok ()
  | volatileWrite width =>
    (∃ place ∈ progress.address, checkWidth heap place width = .ok ()) ∧ operand.purpose = .set
  | compareExchange _ => progress.address.isSome ∧ operand.purpose = .exchange

open Operand in
theorem stops_of_refused {operand : Operand} {progress : Progress} {heap : Heap} {step : Step}
    (refused : ¬ step.Passes operand progress heap) (field : BoundField)
    (receiver : Option ObjectId) :
    (Step.run field receiver operand progress step).Stops heap := by
  cases step with
  | loadStatic | loadReceiver | unbox | memoryBarrier => exact absurd trivial refused
  | loadAddress | load | loadIndirect =>
    exact .liftM_bind fun place found => absurd (isSome_of_located found) refused
  | store | storeIndirect =>
    refine .liftM_bind fun place found => .liftM_bind fun value given => ?_
    exact absurd ⟨isSome_of_located found, purpose_of_stored given⟩ refused
  | volatileRead width =>
    refine .liftM_bind fun place found => .get_bind (.liftM_bind fun _ checked => ?_)
    exact absurd ⟨place, eq_some_of_located found, checked⟩ refused
  | volatileWrite width =>
    refine .liftM_bind fun place found => .get_bind (.liftM_bind fun _ checked => ?_)
    refine .liftM_bind fun value given => ?_
    exact absurd ⟨⟨place, eq_some_of_located found, checked⟩, purpose_of_stored given⟩ refused
  | compareExchange =>
    refine .liftM_bind fun pair given => .liftM_bind fun place found => ?_
    exact absurd ⟨isSome_of_located found, purpose_of_exchanged given⟩ refused

end Step

/-- How far a run has come when a step is due. -/
inductive Stage where
  | started
  | found
  | addressed
  | accessed

namespace Stage

/-- What the run has by then, and still needs. The cell is one that the class laid out for the
field. -/
def Holds (field : BoundField) (progress : Progress) (heap : Heap) : Stage → Prop
  | started => progress = {}
  | found => ∃ place, progress.found = some place ∧ heap.kindAt? place = some field.kind
  | addressed => ∃ place, progress.address = some place ∧ heap.kindAt? place = some field.kind
  | accessed => True

/-- Of what sort the outcome is by then. Before the content is reached it is that of a store. -/
def outcome (purpose : Purpose) : Stage → Purpose
  | accessed => purpose
  | _ => .set

end Stage

/-- The step may come at the one stage of a plan made for the purpose, and leads to the other. -/
inductive Step.Leads (field : BoundField) (purpose : Purpose) : Stage → Step → Stage → Prop where
  | locate : Leads field purpose .started (locate field) .found
  | memoryBarrier (stage : Stage) : Leads field purpose stage .memoryBarrier stage
  | loadAddress : Leads field purpose .found .loadAddress .addressed
  | load (reads : purpose = .get) (ordering : Ordering) :
    Leads field purpose .found (.load ordering) .accessed
  | store (writes : purpose = .set) (ordering : Ordering) :
    Leads field purpose .found (.store ordering) .accessed
  | loadIndirect (reads : purpose = .get) (ordering : Ordering) :
    Leads field purpose .addressed (.loadIndirect ordering) .accessed
  | storeIndirect (writes : purpose = .set) (ordering : Ordering) :
    Leads field purpose .addressed (.storeIndirect ordering) .accessed
  | volatileRead {width : PrimitiveKind} (reads : purpose = .get)
    (wide : field.kind = .primitive width) :
    Leads field purpose .addressed (.volatileRead width) .accessed
  | volatileWrite {width : PrimitiveKind} (writes : purpose = .set)
    (wide : field.kind = .primitive width) :
    Leads field purpose .addressed (.volatileWrite width) .accessed
  | compareExchange (swaps : purpose = .exchange) (kind : FieldKind) :
    Leads field purpose .addressed (.compareExchange kind) .accessed

section

variable {field : BoundField} {receiver : Option ObjectId} {operand : Operand} {purpose : Purpose}
  {stage next : Stage} {step : Step} {progress : Progress} {heap : Heap} {place : Place}

theorem writes_locate (field : BoundField) : (locate field).writes = false := by
  unfold locate
  split
  · rfl
  · split <;> rfl

theorem checkWidth_of_kindAt? {width : PrimitiveKind}
    (known : heap.kindAt? place = some field.kind) (wide : field.kind = .primitive width) :
    checkWidth heap place width = .ok () := by
  obtain ⟨cell, present, sameKind⟩ := Heap.exists_cell known
  exact checkWidth_eq present (sameKind.trans wide)

theorem faults_of_place {fault : Fault} (refused : field.place heap receiver = .error fault) :
    operand.Faults field.kind fault := by
  rcases BoundField.fault_of_place refused with ⟨text, rfl⟩ | ⟨text, rfl⟩
  · exact .nullReceiver text
  · exact .classCast text

theorem faults_exchange {cell : Cell} {expected update : Value} {fault : Fault}
    (failed : cell.exchange expected update = .error fault) :
    (Operand.exchange expected update).Faults cell.kind fault := by
  unfold Cell.exchange at failed
  split at failed
  · cases failed
    exact .unsupportedExchange _
  split at failed
  case isTrue misfit =>
    cases failed
    exact .misfit List.mem_cons_self misfit
  split at failed
  · split at failed <;> cases failed
  case isFalse misfit =>
    cases failed
    exact .misfit (List.mem_cons_of_mem _ List.mem_cons_self) (by simpa using misfit)

/-- What a step that comes in order, with an operand of the plan's kind, may end with. -/
def Sound (field : BoundField) (operand : Operand) (next : Stage) :
    Except Fault Progress × Heap → Prop
  | (.ok later, after) => next.Holds field later after
  | (.error fault, _) => operand.Faults field.kind fault

theorem sound_store (known : heap.kindAt? place = some field.kind) (value : Value) :
    Sound field (.set value) .accessed (written progress ((Heap.store place value).run heap)) := by
  obtain ⟨cell, present, sameKind⟩ := Heap.exists_cell known
  rw [Heap.run_store present, written]
  split
  case isTrue => trivial
  case isFalse misfit =>
    change (Operand.set value).Faults field.kind (cell.mismatch value)
    rw [Cell.mismatch, sameKind]
    exact .misfit List.mem_cons_self (by simpa [sameKind] using misfit)

theorem sound_compareExchange {found : Option Place} {outcome : Outcome} {kind : FieldKind}
    (known : heap.kindAt? place = some field.kind) (expected update : Value) :
    Sound field (.exchange expected update) .accessed
      ((Step.run field receiver (.exchange expected update) ⟨found, some place, outcome⟩
        (.compareExchange kind)).run heap) := by
  obtain ⟨cell, present, sameKind⟩ := Heap.exists_cell known
  simp only [Step.run, Operand.exchanged, located, Action.run_bind, Action.run_liftM,
    Action.run_pure, Heap.run_exchange present]
  cases exchanged : cell.exchange expected update with
  | error fault =>
    have faults := faults_exchange exchanged
    rwa [sameKind] at faults
  | ok => trivial

namespace Step.Leads

theorem passes (leads : step.Leads field purpose stage next) (own : operand.purpose = purpose)
    (holds : stage.Holds field progress heap) : step.Passes operand progress heap := by
  cases leads with
  | locate =>
    unfold Access.locate
    split
    · trivial
    · split <;> trivial
  | memoryBarrier => trivial
  | loadAddress | load | loadIndirect =>
    obtain ⟨place, found, -⟩ := holds
    simp [Step.Passes, found]
  | store writes | storeIndirect writes =>
    obtain ⟨place, found, -⟩ := holds
    simp [Step.Passes, found, own, writes]
  | volatileRead reads wide =>
    obtain ⟨place, found, known⟩ := holds
    exact ⟨place, found, checkWidth_of_kindAt? known wide⟩
  | volatileWrite writes wide =>
    obtain ⟨place, found, known⟩ := holds
    exact ⟨⟨place, found, checkWidth_of_kindAt? known wide⟩, own.trans writes⟩
  | compareExchange swaps =>
    obtain ⟨place, found, -⟩ := holds
    simp [Step.Passes, found, own, swaps]

theorem sound (laidOut : field.LaidOut) (leads : step.Leads field purpose stage next)
    (own : operand.purpose = purpose) (receiver : Option ObjectId)
    (holds : stage.Holds field progress heap) :
    Sound field operand next ((Step.run field receiver operand progress step).run heap) := by
  obtain ⟨found, address, outcome⟩ := progress
  cases leads with
  | locate =>
    cases holds
    rw [run_locate laidOut]
    cases reached : field.place heap receiver with
    | error fault => exact faults_of_place reached
    | ok place => exact ⟨place, rfl, BoundField.kindAt?_place laidOut reached⟩
  | memoryBarrier => exact holds
  | loadAddress =>
    obtain ⟨place, rfl, known⟩ := holds
    exact ⟨place, rfl, known⟩
  | load =>
    obtain ⟨place, rfl, known⟩ := holds
    obtain ⟨cell, present, -⟩ := Heap.exists_cell known
    rw [run_load present]
    trivial
  | loadIndirect =>
    obtain ⟨place, rfl, known⟩ := holds
    obtain ⟨cell, present, -⟩ := Heap.exists_cell known
    rw [run_loadIndirect present]
    trivial
  | volatileRead reads wide =>
    obtain ⟨place, rfl, known⟩ := holds
    obtain ⟨cell, present, sameKind⟩ := Heap.exists_cell known
    rw [run_volatileRead present (sameKind.trans wide)]
    trivial
  | store writes =>
    obtain ⟨place, rfl, known⟩ := holds
    cases operand with
    | get | exchange => cases own.trans writes
    | set value =>
      rw [run_store]
      exact sound_store known value
  | storeIndirect writes =>
    obtain ⟨place, rfl, known⟩ := holds
    cases operand with
    | get | exchange => cases own.trans writes
    | set value =>
      rw [run_storeIndirect]
      exact sound_store known value
  | volatileWrite writes wide =>
    obtain ⟨place, rfl, known⟩ := holds
    obtain ⟨cell, present, sameKind⟩ := Heap.exists_cell known
    cases operand with
    | get | exchange => cases own.trans writes
    | set value =>
      rw [run_volatileWrite present (sameKind.trans wide)]
      exact sound_store known value
  | compareExchange swaps =>
    obtain ⟨place, rfl, known⟩ := holds
    cases operand with
    | get | set => cases own.trans swaps
    | exchange expected update => exact sound_compareExchange known expected update

theorem reads (leads : step.Leads field purpose stage next) (getting : purpose = .get) :
    step.writes = false := by
  cases leads with
  | locate => exact writes_locate field
  | memoryBarrier | loadAddress | load | loadIndirect | volatileRead => rfl
  | store other | storeIndirect other | volatileWrite other | compareExchange other =>
    cases getting.symm.trans other

/-- With an operand of another kind a step writes nothing. -/
theorem readsOnly (leads : step.Leads field purpose stage next)
    (foreign : operand.purpose ≠ purpose) (progress : Progress) :
    (Step.run field receiver operand progress step).ReadsOnly := by
  cases writes : step.writes with
  | false => exact Step.readsOnly_run writes field receiver operand progress
  | true =>
    -- each step that writes asks for the operand that its plan was compiled for
    intro heap
    have refused : ¬ step.Passes operand progress heap := by
      intro passes
      cases leads with
      | locate => cases (writes_locate field).symm.trans writes
      | memoryBarrier | loadAddress | load | loadIndirect | volatileRead => cases writes
      | store kind | storeIndirect kind | volatileWrite kind | compareExchange kind =>
        exact foreign (passes.2.trans kind.symm)
    obtain ⟨fault, stopped⟩ := Step.stops_of_refused refused field receiver
    rw [stopped]

/-- Whatever the operand, a step that passes leaves an outcome of the sort that its stage has. -/
theorem yields (leads : step.Leads field purpose stage next)
    (shows : progress.outcome.purpose = stage.outcome purpose) :
    (Step.run field receiver operand progress step).Yields fun later =>
      later.outcome.purpose = next.outcome purpose := by
  have found (place : Place) : (Step.run.found progress place).Yields fun later =>
      later.outcome.purpose = stage.outcome purpose :=
    .onward fun _ => .onward fun _ => .pure shows
  cases leads with
  | locate =>
    unfold Access.locate
    split
    · exact found _
    · split <;> exact .onward fun _ => .onward fun _ => found _
  | memoryBarrier => exact .pure shows
  | loadAddress => exact .onward fun _ => .pure shows
  | load reads | loadIndirect reads => exact .onward fun _ => .onward fun _ => .pure reads.symm
  | volatileRead reads =>
    exact .onward fun _ => .onward fun _ => .onward fun _ => .onward fun _ => .pure reads.symm
  | store writes | storeIndirect writes =>
    exact .onward fun _ => .onward fun _ => .onward fun _ => .pure (shows.trans writes.symm)
  | volatileWrite writes =>
    refine .onward fun _ => .onward fun _ => .onward fun _ => ?_
    exact .onward fun _ => .onward fun _ => .pure (shows.trans writes.symm)
  | compareExchange swaps =>
    exact .onward fun _ => .onward fun _ => .onward fun _ => .pure swaps.symm

end Step.Leads

end

/-- The steps come in order, up to the access of the content. -/
inductive Staged (field : BoundField) (purpose : Purpose) : Stage → List Step → Prop where
  | nil : Staged field purpose .accessed []
  | cons {stage next : Stage} {step : Step} {rest : List Step}
    (leads : step.Leads field purpose stage next) (staged : Staged field purpose next rest) :
    Staged field purpose stage (step :: rest)

namespace Staged

variable {field : BoundField} {receiver : Option ObjectId} {operand : Operand} {purpose : Purpose}
  {stage : Stage} {steps earlier later : List Step} {step : Step} {progress before : Progress}
  {heap middle : Heap}

theorem exists_leads (staged : Staged field purpose stage steps) (planned : step ∈ steps) :
    ∃ now next, step.Leads field purpose now next := by
  induction staged with
  | nil => cases planned
  | cons leads staged ih =>
    rcases List.mem_cons.1 planned with rfl | behind
    · exact ⟨_, _, leads⟩
    · exact ih behind

theorem readsOnly (staged : Staged field purpose stage steps) (foreign : operand.purpose ≠ purpose)
    (progress : Progress) :
    (steps.foldlM (Step.run field receiver operand) progress).ReadsOnly := by
  refine .foldlM (fun step planned => ?_) progress
  obtain ⟨now, next, leads⟩ := staged.exists_leads planned
  exact leads.readsOnly foreign

theorem yields (staged : Staged field purpose stage steps)
    (shows : progress.outcome.purpose = stage.outcome purpose) :
    (steps.foldlM (Step.run field receiver operand) progress).Yields fun finished =>
      finished.outcome.purpose = purpose := by
  induction staged generalizing progress with
  | nil => exact .pure shows
  | cons leads staged ih =>
    rw [List.foldlM_cons]
    exact (leads.yields shows).bind fun later => ih

/-- When a step is due, the run has what the step needs. -/
theorem reaches (laidOut : field.LaidOut)
    (staged : Staged field purpose stage (earlier ++ step :: later))
    (own : operand.purpose = purpose) (holds : stage.Holds field progress heap)
    (ran : (earlier.foldlM (Step.run field receiver operand) progress).run heap =
      (.ok before, middle)) :
    ∃ now next, step.Leads field purpose now next ∧ now.Holds field before middle := by
  -- what the first step leads to holds where the others begin
  induction earlier generalizing stage progress heap with
  | nil =>
    cases ran
    cases staged with
    | cons leads staged => exact ⟨_, _, leads, holds⟩
  | cons first rest ih =>
    cases staged with
    | cons leads staged =>
      have sound := leads.sound laidOut own receiver holds
      rw [List.foldlM_cons, Action.run_bind] at ran
      rcases one : (Step.run field receiver operand progress first).run heap with
        ⟨fault | next, after⟩ <;> rw [one] at ran sound
      · cases ran
      · exact ih staged sound ran

theorem faults (laidOut : field.LaidOut) (staged : Staged field purpose stage steps)
    (own : operand.purpose = purpose) (holds : stage.Holds field progress heap) {fault : Fault}
    {after : Heap}
    (failed : (steps.foldlM (Step.run field receiver operand) progress).run heap =
      (.error fault, after)) :
    operand.Faults field.kind fault := by
  induction staged generalizing progress heap with
  | nil => cases failed
  | cons leads staged ih =>
    have sound := leads.sound laidOut own receiver holds
    rw [List.foldlM_cons, Action.run_bind] at failed
    rcases one : (Step.run field receiver operand progress _).run heap with
      ⟨cause | next, later⟩ <;> rw [one] at failed sound
    · cases failed
      exact sound
    · exact ih sound failed

end Staged

/-! Compiled plans come in order. -/

theorem staged_readSteps (field : BoundField) (strategy : Strategy) :
    Staged field .get .found (readSteps field strategy) := by
  unfold readSteps
  split
  case h_1 =>
    split
    case h_1 width primitive =>
      exact .cons .loadAddress (.cons (.volatileRead rfl primitive) .nil)
    case h_2 =>
      refine .cons .loadAddress (.cons (.memoryBarrier _) (.cons ?_ .nil))
      exact .loadIndirect rfl .volatile
  case h_2 width _ wide =>
    exact .cons .loadAddress (.cons (.volatileRead rfl (kind_of_wideVolatile? wide)) .nil)
  case h_3 =>
    have byAddress (ordering : Ordering) :
        Staged field .get .found [.loadAddress, .loadIndirect ordering] :=
      .cons .loadAddress (.cons (.loadIndirect rfl ordering) .nil)
    have direct (ordering : Ordering) : Staged field .get .found [.load ordering] :=
      .cons (.load rfl ordering) .nil
    split
    · split
      · exact .cons (.memoryBarrier _) (byAddress .volatile)
      · exact byAddress .plain
    · split
      · exact .cons (.memoryBarrier _) (direct .volatile)
      · exact direct .plain
  case h_4 =>
    split
    · exact .cons (.memoryBarrier _) (.cons (.load rfl .volatile) .nil)
    · exact .cons (.load rfl .plain) .nil

theorem staged_writeSteps (field : BoundField) (strategy : Strategy) :
    Staged field .set .found (writeSteps field strategy) := by
  unfold writeSteps
  split
  case h_1 =>
    split
    case h_1 width primitive =>
      exact .cons .loadAddress (.cons (.volatileWrite rfl primitive) .nil)
    case h_2 =>
      refine .cons .loadAddress (.cons (.storeIndirect rfl .volatile) ?_)
      exact .cons (.memoryBarrier _) .nil
  case h_2 width _ wide =>
    exact .cons .loadAddress (.cons (.volatileWrite rfl (kind_of_wideVolatile? wide)) .nil)
  case h_3 =>
    split
    · exact .cons (.store rfl .volatile) (.cons (.memoryBarrier _) .nil)
    · exact .cons (.store rfl .plain) .nil

end GuestBridge.Access

namespace GuestBridge.BoundField

open Access

/-- The plan that a field has for a purpose, if any. Compare-and-swaps know no strategies. -/
def plan (field : BoundField) (strategy : Strategy) : Purpose → Except Fault Plan
  | .get => .ok (field.getPlan strategy)
  | .set => .ok (field.setPlan strategy)
  | .exchange => field.exchangePlan

theorem staged_plan {field : BoundField} {strategy : Strategy} {purpose : Purpose} {plan : Plan}
    (compiled : field.plan strategy purpose = .ok plan) :
    plan.target = field ∧ Staged field purpose .started plan.steps := by
  cases purpose with
  | get =>
    cases compiled
    exact ⟨rfl, .cons .locate (staged_readSteps field strategy)⟩
  | set =>
    cases compiled
    exact ⟨rfl, .cons .locate (staged_writeSteps field strategy)⟩
  | exchange =>
    change field.exchangePlan = .ok plan at compiled
    unfold exchangePlan at compiled
    split at compiled
    case isTrue =>
      cases compiled
      exact ⟨rfl, .cons .locate (.cons .loadAddress (.cons (.compareExchange rfl _) .nil))⟩
    case isFalse => cases compiled

end GuestBridge.BoundField
