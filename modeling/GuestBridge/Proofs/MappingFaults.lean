import GuestBridge.Backend.Scripted
import GuestBridge.Proofs.MappingRules

/-!
What the guest is told of a mapping or an unmapping that fails in the system. The fault is chosen by
the condition that the failure stands for and not by its number, and two numbers stand for the
condition of a facility that is missing. The number does not reach the guest with these, as it does
not with memory that has run out.
-/
namespace GuestBridge

namespace ErrorNumber

theorem numbers_distinct : (conditions.map Prod.fst).Nodup := by decide +kernel

theorem condition_of_mem {number : Int32} {known : ErrorCondition}
    (entered : (number, known) ∈ conditions) : condition number = known := by
  obtain ⟨before, after, split⟩ := List.append_of_mem entered
  have distinct := numbers_distinct
  rw [split, List.map_append, List.nodup_append] at distinct
  have earlier : before.lookup number = none := by
    rw [List.lookup_eq_none_iff]
    intro entry present
    have differs := distinct.2.2 entry.1 (List.mem_map_of_mem present) number (by simp)
    simpa using differs.symm
  rw [condition, split, List.lookup_append, earlier, Option.none_or, List.lookup_cons_self,
    Option.getD_some]

theorem condition_eq_iff {number : Int32} {known : ErrorCondition}
    (categorized : known ≠ .uncategorized) :
    condition number = known ↔ (number, known) ∈ conditions := by
  refine ⟨fun same => ?_, condition_of_mem⟩
  cases found : conditions.lookup number with
  | none =>
    rw [condition, found] at same
    exact absurd same.symm categorized
  | some entered =>
    obtain ⟨before, after, split, -⟩ := List.lookup_eq_some_iff.1 found
    rw [condition, found, Option.getD_some] at same
    rw [split, same]
    simp

theorem condition_outOfMemory_iff {number : Int32} :
    condition number = .outOfMemory ↔ number = 12 := by
  rw [condition_eq_iff (by simp)]
  simp [conditions]

theorem condition_unsupported_iff {number : Int32} :
    condition number = .unsupported ↔ number = 38 ∨ number = 95 := by
  rw [condition_eq_iff (by simp)]
  simp [conditions]

end ErrorNumber

theorem SystemError.condition_of_number? {cause : SystemError} {number : Int32}
    (numbered : cause.number? = some number) :
    cause.condition = ErrorNumber.condition number := by
  cases cause with
  | numbered known =>
    cases numbered
    rfl
  | described condition text => cases numbered

/-- How a failure of the system is told: under a text and with its cause, unless its condition is
one of those told apart. The numbers of these are lost. -/
structure Told (text : String) (apart : List ErrorCondition) (lost : List Int32)
    (cause : SystemError) (fault : Fault) : Prop where
  exhausted : fault = .outOfMemory text ↔ .outOfMemory ∈ apart ∧ cause.condition = .outOfMemory
  unsupported : fault = .platformUnsupported ↔
    .unsupported ∈ apart ∧ cause.condition = .unsupported
  passed : fault = .io text (some cause) ↔ cause.condition ∉ apart
  numbered : ∀ number, cause.number? = some number →
    (fault.systemNumber? = some number ↔ number ∉ lost)

namespace Told

variable {text : String} {apart : List ErrorCondition} {lost : List Int32} {cause : SystemError}

theorem of_passed (passed : cause.condition ∉ apart)
    (kept : ∀ number ∈ lost, ErrorNumber.condition number ∈ apart) :
    Told text apart lost cause (.io text (some cause)) where
  exhausted := by
    simp only [reduceCtorEq, false_iff, not_and]
    intro told same
    exact passed (same ▸ told)
  unsupported := by
    simp only [reduceCtorEq, false_iff, not_and]
    intro told same
    exact passed (same ▸ told)
  passed := by simp [passed]
  numbered number numbered := by
    have condition := SystemError.condition_of_number? numbered
    have outside : number ∉ lost := fun inside => passed (condition ▸ kept number inside)
    simp [Fault.systemNumber?, numbered, outside]

theorem of_exhausted (told : .outOfMemory ∈ apart) (exhausted : cause.condition = .outOfMemory)
    (left : 12 ∈ lost) : Told text apart lost cause (.outOfMemory text) where
  exhausted := by simp [told, exhausted]
  unsupported := by simp [exhausted]
  passed := by simp [told, exhausted]
  numbered number numbered := by
    rw [SystemError.condition_of_number? numbered,
      ErrorNumber.condition_outOfMemory_iff] at exhausted
    simp [Fault.systemNumber?, exhausted, left]

theorem of_unsupported (told : .unsupported ∈ apart) (unsupported : cause.condition = .unsupported)
    (left : 38 ∈ lost ∧ 95 ∈ lost) : Told text apart lost cause .platformUnsupported where
  exhausted := by simp [unsupported]
  unsupported := by simp [told, unsupported]
  passed := by simp [told, unsupported]
  numbered number numbered := by
    rw [SystemError.condition_of_number? numbered,
      ErrorNumber.condition_unsupported_iff] at unsupported
    rcases unsupported with rfl | rfl
    · simp [Fault.systemNumber?, left.1]
    · simp [Fault.systemNumber?, left.2]

end Told

namespace Channel

theorem told_mapFault (cause : SystemError) :
    Told "File mapping failed." [.outOfMemory, .unsupported] [12, 38, 95] cause
      (mapFault cause) := by
  unfold mapFault
  split
  case h_1 exhausted => exact .of_exhausted (by simp) exhausted (by simp)
  case h_2 unsupported => exact .of_unsupported (by simp) unsupported (by simp)
  case h_3 inhabited roomy supported =>
    refine .of_passed (by simpa using ⟨roomy, supported⟩) ?_
    simp only [List.forall_mem_cons]
    exact ⟨by decide, by decide, by decide, nofun⟩

theorem told_unmapFault (cause : SystemError) :
    Told "Unmap failed." [.unsupported] [38, 95] cause (unmapFault cause) := by
  unfold unmapFault
  split
  case h_1 unsupported => exact .of_unsupported (by simp) unsupported (by simp)
  case h_2 supported =>
    refine .of_passed (by simpa using supported) ?_
    simp only [List.forall_mem_cons]
    exact ⟨by decide, by decide, nofun⟩

end Channel

/-- The session with these regions in the table. -/
def Session.holding {state : Type} (regions : List MappedRegion) (session : Session state) :
    Session state :=
  { session with bridge := { session.bridge with regions } }

namespace RegionCall

open World

variable {state : Type} {call : RegionCall} {session : Session state} {cause : SystemError}

/-- The backend is asked for the mapping, after what it is told beforehand, and fails to make it. -/
inductive MappingFails (call : RegionCall) (session : Session state) (cause : SystemError) :
    Prop where
  | intro {request : MapRequest} {advised : World state} {machine : Machine state}
      (requests : call.Requests session request)
      (ahead : session.bridge.channel.Ahead request.handle request.offset request.length
        session.world advised)
      (ran : (session.bridge.backend.mapMemory request.handle request.mode request.offset
        request.length).run (machinePart.get advised) = (.error cause, machine))

/-- The backend is asked to unmap the region that the call names, and fails to. -/
inductive UnmappingFails (call : RegionCall) (session : Session state) (cause : SystemError) :
    Prop where
  | intro {address : UInt64} {region : MappedRegion} {machine : Machine state}
      (named : call.target? = some address)
      (found : session.bridge.regions.find? (fun known => known.address == address) = some region)
      (ran : (session.bridge.backend.unmapMemory region.address region.length).run
        (machinePart.get session.world) = (.error cause, machine))

theorem outcome_of_mappingFails (fails : call.MappingFails session cause) :
    (call.perform.run session).1 = .error (Channel.mapFault cause) := by
  obtain @⟨request, advised, machine, requests, ahead, ran⟩ := fails
  obtain ⟨mapping, decides⟩ := requests
  have ran : (session.bridge.channel.backend.mapMemory request.handle request.mode request.offset
      request.length).run (machinePart.get advised) = (.error cause, machine) := ran
  rw [run_perform_of_asked mapping decides, Channel.run_serve_of_ahead ahead, Channel.run_fulfil,
    ran]
  rfl

theorem outcome_of_unmappingFails (fails : call.UnmappingFails session cause) :
    (call.perform.run session).1 = .error (Channel.unmapFault cause) := by
  obtain @⟨address, region, machine, named, found, ran⟩ := fails
  have effect := call.effect session
  generalize call.perform.run session = result at effect ⊢
  have present := List.mem_of_find?_eq_some found
  have same : region.address = address := by simpa using List.find?_some found
  cases effect with
  | failed space _ missing => exact absurd same (missing address named region present)
  | filed maps mapping => cases named.symm.trans mapping
  | released known held =>
    cases named.symm.trans known
    cases found.symm.trans held
    have ran : (session.bridge.channel.backend.unmapMemory region.address region.length).run
        (machinePart.get session.world) = (.error cause, machine) := ran
    rw [Channel.run_unmap, ran]
    rfl

/-- Where the backend fails to map or to unmap what a call asks it to, the call fails, and this much
of the failure comes through. -/
theorem failures_told (call : RegionCall) (session : Session state) (cause : SystemError) :
    (call.MappingFails session cause → ∃ fault, (call.perform.run session).1 = .error fault ∧
      Told "File mapping failed." [.outOfMemory, .unsupported] [12, 38, 95] cause fault) ∧
    (call.UnmappingFails session cause → ∃ fault, (call.perform.run session).1 = .error fault ∧
      Told "Unmap failed." [.unsupported] [38, 95] cause fault) := by
  constructor
  · intro fails
    have failed := outcome_of_mappingFails fails
    exact ⟨_, failed, Channel.told_mapFault cause⟩
  · intro fails
    have failed := outcome_of_unmappingFails fails
    exact ⟨_, failed, Channel.told_unmapFault cause⟩

theorem Requests.holding {request : MapRequest} (requests : call.Requests session request)
    (regions : List MappedRegion) : call.Requests (session.holding regions) request := by
  obtain ⟨mapping, decides⟩ := requests
  refine .intro mapping (decides.of_same ?_ ?_) <;> rfl

/-- One channel on an open file and one region in the table, on a backend that fails to map and to
unmap with these numbers. -/
def failing (mapNumber unmapNumber : Int32) : Session Script :=
  let session := Session.onFile (Backend.scripted { name := "scripted" })
    { mapAnswers := [.error (.numbered mapNumber)]
      unmapAnswers := [.error (.numbered unmapNumber)] }
  session.holding [⟨65536, 77, .readOnly⟩]

theorem mappingFails_failing (mapNumber unmapNumber : Int32) :
    (map ⟨2⟩ 0 0 77).MappingFails (failing mapNumber unmapNumber) (.numbered mapNumber) :=
  .intro ((requests_onFile ..).holding _) (.advised rfl rfl) rfl

theorem unmappingFails_failing (mapNumber unmapNumber : Int32) :
    (unmap 65536 77).UnmappingFails (failing mapNumber unmapNumber) (.numbered unmapNumber) :=
  .intro rfl rfl rfl

theorem failures_told_of_denied :
    ∃ mapFault unmapFault,
      ((map ⟨2⟩ 0 0 77).perform.run (failing 13 5)).1 = .error mapFault ∧
      mapFault.systemNumber? = some 13 ∧
      ((unmap 65536 77).perform.run (failing 13 5)).1 = .error unmapFault ∧
      unmapFault.systemNumber? = some 5 := by
  obtain ⟨mapFault, mapped, mapTold⟩ :=
    (failures_told (map ⟨2⟩ 0 0 77) (failing 13 5) (.numbered 13)).1 (mappingFails_failing 13 5)
  obtain ⟨unmapFault, unmapped, unmapTold⟩ :=
    (failures_told (unmap 65536 77) (failing 13 5) (.numbered 5)).2 (unmappingFails_failing 13 5)
  exact ⟨mapFault, unmapFault, mapped, (mapTold.numbered 13 rfl).2 (by decide), unmapped,
    (unmapTold.numbered 5 rfl).2 (by decide)⟩

/-- Neither number stands for memory that has run out, and both are lost. -/
theorem numbers_lost :
    (map ⟨2⟩ 0 0 77).MappingFails (failing 95 38) (.numbered 95) ∧
    ErrorNumber.condition 95 ≠ .outOfMemory ∧
    ((map ⟨2⟩ 0 0 77).perform.run (failing 95 38)).1 = .error .platformUnsupported ∧
    (unmap 65536 77).UnmappingFails (failing 95 38) (.numbered 38) ∧
    ((unmap 65536 77).perform.run (failing 95 38)).1 = .error .platformUnsupported ∧
    Fault.platformUnsupported.systemNumber? = none := by
  have mapping := mappingFails_failing 95 38
  have unmapping := unmappingFails_failing 95 38
  exact ⟨mapping, by decide, outcome_of_mappingFails mapping, unmapping,
    outcome_of_unmappingFails unmapping, rfl⟩

end RegionCall

end GuestBridge
