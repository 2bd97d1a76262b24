import GuestBridge.Backend.Scripted
import GuestBridge.Proofs.RegionCalls
import Mathlib.Data.List.Nodup

/-!
Bridges that count their mapped memory on one counter. Whatever calls fail, and in whatever order
the bridges map, unmap and go, the counter holds what it held at first together with the bytes of
all regions in the tables.
-/
namespace GuestBridge

/-- Bridges by number over one world. A dropped bridge leaves its number empty. -/
structure BridgeGroup (state : Type) where
  bridges : List (Option (Bridge state))
  world : World state

def MappedRegion.bytes : List MappedRegion → Nat
  | [] => 0
  | region :: rest => region.length.toNat + bytes rest

namespace BridgeGroup

open MappedRegion

inductive Request (state : Type) where
  | call (number : Nat) (call : RegionCall)
  | drop (number : Nat)
  /-- All else in the world changes, but no counter. -/
  | elsewhere (world : World state)

variable {state : Type}

def session? (group : BridgeGroup state) (number : Nat) : Option (Session state) :=
  group.bridges[number]?.join.map (⟨·, group.world⟩)

def respond (group : BridgeGroup state) : Request state → BridgeGroup state
  | .call number call =>
    match group.session? number with
    | some session =>
      let after := (call.perform.run session).2
      ⟨group.bridges.set number (some after.bridge), after.world⟩
    | none => group
  | .drop number =>
    match group.session? number with
    | some session => ⟨group.bridges.set number none, Bridge.drop session⟩
    | none => group
  | .elsewhere world => { group with world := { world with counters := group.world.counters } }

def after (group : BridgeGroup state) (history : List (Request state)) : BridgeGroup state :=
  history.foldl respond group

def regions (group : BridgeGroup state) : List MappedRegion :=
  group.bridges.flatMap fun bridge? => bridge?.elim [] Bridge.regions

def counted (group : BridgeGroup state) (kind : RegionCall → Session state → Bool)
    (number : Nat) : Request state → Bool
  | .call other call => other == number && (group.session? other).any (kind call)
  | _ => false

def count (kind : RegionCall → Session state → Bool) (number : Nat) :
    BridgeGroup state → List (Request state) → Nat
  | _, [] => 0
  | group, request :: rest =>
    (group.counted kind number request).toNat + count kind number (group.respond request) rest

/-- A request that maps nothing where the same bridge has a region. -/
def Fresh (group : BridgeGroup state) : Request state → Prop
  | .call number call => ∀ session ∈ group.session? number, call.Fresh session
  | _ => True

/-- A history of such requests, with the counter's start and all regions below 64 bits. -/
def Admits (start : Nat) : BridgeGroup state → List (Request state) → Prop
  | _, [] => True
  | group, request :: rest =>
    group.Fresh request ∧ start + bytes (group.respond request).regions < UInt64.size ∧
      Admits start (group.respond request) rest

instance (group : BridgeGroup state) : (request : Request state) → Decidable (group.Fresh request)
  | .call number _ => Option.decidableForallMem (group.session? number)
  | .drop _ | .elsewhere _ => .isTrue trivial

instance decidableAdmits (start : Nat) : (group : BridgeGroup state) →
    (history : List (Request state)) → Decidable (Admits start group history)
  | _, [] => .isTrue trivial
  | group, request :: rest =>
    have := decidableAdmits start (group.respond request) rest
    inferInstanceAs (Decidable (_ ∧ _ ∧ _))

/-- Bridges that have nothing mapped yet and count on this counter. -/
structure Ready (counter : CounterId) (group : BridgeGroup state) : Prop where
  made : counter.index < group.world.counters.held.size
  sink : ∀ bridge, some bridge ∈ group.bridges → bridge.pressure = counter
  empty : ∀ bridge, some bridge ∈ group.bridges → bridge.regions = []

structure Balanced (counter : CounterId) (start : Nat) (group : BridgeGroup state) : Prop where
  made : counter.index < group.world.counters.held.size
  sink : ∀ bridge, some bridge ∈ group.bridges → bridge.pressure = counter
  filed : ∀ bridge, some bridge ∈ group.bridges →
    (bridge.regions.map MappedRegion.address).Nodup
  balance : (group.world.counters.current counter).toNat = start + bytes group.regions

section Bytes

variable {regions : List MappedRegion} {region : MappedRegion}

@[simp] theorem bytes_nil : bytes [] = 0 := rfl

@[simp] theorem bytes_cons : bytes (region :: regions) = region.length.toNat + bytes regions := rfl

@[simp] theorem bytes_append (first second : List MappedRegion) :
    bytes (first ++ second) = bytes first + bytes second := by
  induction first with
  | nil => simp
  | cons region rest ih =>
    rw [List.cons_append, bytes_cons, bytes_cons, ih]
    omega

theorem bytes_perm {others : List MappedRegion} (same : regions.Perm others) :
    bytes regions = bytes others := by
  induction same with
  | nil => rfl
  | cons region same ih => rw [bytes_cons, bytes_cons, ih]
  | swap first second rest =>
    simp only [bytes_cons]
    omega
  | trans early late ihEarly ihLate => exact ihEarly.trans ihLate

theorem perm_filed (unique : (regions.map MappedRegion.address).Nodup)
    (present : region ∈ regions) :
    (region :: regions.filter fun known => known.address != region.address).Perm regions := by
  induction regions with
  | nil => cases present
  | cons first rest ih =>
    obtain ⟨others, unique⟩ := MappedRegion.nodup_cons.1 unique
    rcases List.mem_cons.1 present with rfl | behind
    · simp [MappedRegion.filter_others others]
    · have different : first.address ≠ region.address := (others region behind).symm
      have kept : (first :: rest).filter (fun known => known.address != region.address) =
          first :: rest.filter fun known => known.address != region.address := by
        simp [different]
      rw [kept]
      exact (List.Perm.swap ..).trans ((ih unique behind).cons first)

theorem bytes_filed (unique : (regions.map MappedRegion.address).Nodup)
    (present : region ∈ regions) :
    region.length.toNat + bytes (regions.filter fun known => known.address != region.address) =
      bytes regions := by
  rw [← bytes_cons]
  exact bytes_perm (perm_filed unique present)

/-- Putting another bridge in place of one changes the bytes by the difference of the two. -/
theorem bytes_set {bridges : List (Option (Bridge state))} {number : Nat}
    {old : Option (Bridge state)} (present : bridges[number]? = some old)
    (new : Option (Bridge state)) (world : World state) :
    bytes (BridgeGroup.regions ⟨bridges.set number new, world⟩) +
        bytes (old.elim [] Bridge.regions) =
      bytes (BridgeGroup.regions ⟨bridges, world⟩) + bytes (new.elim [] Bridge.regions) := by
  induction bridges generalizing number with
  | nil => simp at present
  | cons first rest ih =>
    cases number with
    | zero =>
      obtain rfl : first = old := by simpa using present
      simp only [BridgeGroup.regions, List.set_cons_zero, List.flatMap_cons, bytes_append]
      omega
    | succ number =>
      have later := ih (by simpa using present)
      simp only [BridgeGroup.regions, List.set_cons_succ, List.flatMap_cons,
        bytes_append] at later ⊢
      omega

theorem bytes_le {group : BridgeGroup state} {number : Nat} {bridge : Bridge state}
    (present : group.bridges[number]? = some (some bridge)) :
    bytes bridge.regions ≤ bytes group.regions := by
  have without := bytes_set present none group.world
  simp only [Option.elim_some, Option.elim_none, bytes_nil] at without
  change _ = bytes group.regions + 0 at without
  omega

end Bytes

theorem session?_eq_some_iff {group : BridgeGroup state} {number : Nat} {session : Session state} :
    group.session? number = some session ↔
      group.bridges[number]? = some (some session.bridge) ∧ session.world = group.world := by
  obtain ⟨bridge, world⟩ := session
  simp only [session?, Option.map_eq_some_iff, Option.join_eq_some_iff, Session.mk.injEq]
  constructor
  · rintro ⟨known, present, rfl, rfl⟩
    exact ⟨present, rfl⟩
  · rintro ⟨present, rfl⟩
    exact ⟨bridge, present, rfl, rfl⟩

/-- Giving regions back takes their bytes off the counter, down to zero. -/
theorem current_giveBack (channel : Channel state) (regions : List MappedRegion)
    {world : World state} (made : channel.pressure.index < world.counters.held.size) :
    let after := regions.foldl (fun world region => ((channel.unmap region).run world).2) world
    after.counters.held.size = world.counters.held.size ∧
    (after.counters.current channel.pressure).toNat =
      (world.counters.current channel.pressure).toNat - bytes regions := by
  induction regions generalizing world with
  | nil => exact ⟨rfl, rfl⟩
  | cons region rest ih =>
    have step : ((channel.unmap region).run world).2.counters =
        world.counters.remove channel.pressure region.length := by
      rw [channel.run_unmap]
    have still : channel.pressure.index <
        ((channel.unmap region).run world).2.counters.held.size := by
      rw [step, Counters.size_remove]
      exact made
    obtain ⟨size, current⟩ := ih still
    constructor
    · rw [List.foldl_cons, size, step, Counters.size_remove]
    · rw [List.foldl_cons, current, step, Counters.current_remove _ made,
        MemoryPressure.toNat_remove, bytes_cons, Nat.sub_sub]

namespace Balanced

variable {counter : CounterId} {start : Nat} {group : BridgeGroup state} {number : Nat}

/-- One bridge and the world change together, by as many bytes in the table as on the counter. -/
theorem replace (balanced : Balanced counter start group) {old : Bridge state}
    (present : group.bridges[number]? = some (some old)) {new : Option (Bridge state)}
    {world : World state} (made : world.counters.held.size = group.world.counters.held.size)
    (sink : ∀ bridge ∈ new, bridge.pressure = counter)
    (filed : ∀ bridge ∈ new, (bridge.regions.map MappedRegion.address).Nodup)
    (moved : (world.counters.current counter).toNat + bytes old.regions =
      (group.world.counters.current counter).toNat + bytes (new.elim [] Bridge.regions)) :
    Balanced counter start ⟨group.bridges.set number new, world⟩ where
  made := made ▸ balanced.made
  sink bridge mem := by
    rcases List.mem_or_eq_of_mem_set mem with before | here
    · exact balanced.sink bridge before
    · exact sink bridge here.symm
  filed bridge mem := by
    rcases List.mem_or_eq_of_mem_set mem with before | here
    · exact balanced.filed bridge before
    · exact filed bridge here.symm
  balance := by
    have inTables := bytes_set present new world
    have balance := balanced.balance
    rw [Option.elim_some] at inTables
    change _ = bytes group.regions + _ at inTables
    change (world.counters.current counter).toNat = _
    omega

theorem drop (balanced : Balanced counter start group) {session : Session state}
    (known : group.session? number = some session) :
    Balanced counter start ⟨group.bridges.set number none, Bridge.drop session⟩ := by
  obtain ⟨present, sameWorld⟩ := session?_eq_some_iff.1 known
  have sink : session.bridge.channel.pressure = counter :=
    balanced.sink _ (List.mem_of_getElem? present)
  have made : session.bridge.channel.pressure.index < session.world.counters.held.size := by
    rw [sink, sameWorld]
    exact balanced.made
  obtain ⟨size, current⟩ :
      (Bridge.drop session).counters.held.size = session.world.counters.held.size ∧
        ((Bridge.drop session).counters.current session.bridge.channel.pressure).toNat =
          (session.world.counters.current session.bridge.channel.pressure).toNat -
            bytes session.bridge.regions :=
    current_giveBack session.bridge.channel session.bridge.regions made
  have inTables := bytes_le present
  have balance := balanced.balance
  rw [sink, sameWorld] at current
  apply balanced.replace present
  · exact size.trans (by rw [sameWorld])
  · intro bridge mem
    cases mem
  · intro bridge mem
    cases mem
  · rw [Option.elim_none, bytes_nil]
    omega

theorem call (balanced : Balanced counter start group) {call : RegionCall}
    {session : Session state} (known : group.session? number = some session)
    (fresh : call.Fresh session)
    (fits : start + bytes (BridgeGroup.regions ⟨group.bridges.set number
      (some (call.perform.run session).2.bridge), (call.perform.run session).2.world⟩) <
        UInt64.size) :
    Balanced counter start ⟨group.bridges.set number (some (call.perform.run session).2.bridge),
      (call.perform.run session).2.world⟩ := by
  obtain ⟨present, sameWorld⟩ := session?_eq_some_iff.1 known
  have mem := List.mem_of_getElem? present
  have sink := balanced.sink _ mem
  have unique := balanced.filed _ mem
  have balance := balanced.balance
  have keepsSink : ∀ bridge ∈ some (call.perform.run session).2.bridge,
      bridge.pressure = counter := by
    intro bridge here
    cases here
    rw [call.pressure_perform, sink]
  have inTables := bytes_set present (some (call.perform.run session).2.bridge)
    (call.perform.run session).2.world
  rw [Option.elim_some, Option.elim_some] at inTables
  change _ = bytes group.regions + _ at inTables
  cases RegionCall.turn fresh with
  | kept unmapped unfound regions counters =>
    apply balanced.replace present _ keepsSink
    · intro bridge here
      cases here
      rw [regions]
      exact unique
    · rw [counters, sameWorld, Option.elim_some, regions]
    · rw [counters, sameWorld]
  | filed region mapped unfound regions counters =>
    have added : ((call.perform.run session).2.world.counters.current counter).toNat =
        (group.world.counters.current counter).toNat + region.length.toNat := by
      rw [regions, bytes_cons] at inTables
      rw [counters, sink, sameWorld, Counters.current_add _ balanced.made]
      apply MemoryPressure.toNat_add
      omega
    apply balanced.replace present _ keepsSink
    · intro bridge here
      cases here
      rw [regions]
      exact MappedRegion.nodup_cons.2 ⟨fresh region.address mapped, unique⟩
    · rw [added, Option.elim_some, regions, bytes_cons]
      omega
    · rw [counters, sameWorld, Counters.size_add]
  | released region unmapped found inTable regions counters =>
    have removed : ((call.perform.run session).2.world.counters.current counter).toNat =
        (group.world.counters.current counter).toNat - region.length.toNat := by
      rw [counters, sink, sameWorld, Counters.current_remove _ balanced.made,
        MemoryPressure.toNat_remove]
    have ofRegion := bytes_filed unique inTable
    have ofBridge := bytes_le present
    apply balanced.replace present _ keepsSink
    · intro bridge here
      cases here
      rw [regions]
      exact unique.sublist (List.filter_sublist.map _)
    · rw [removed, Option.elim_some, regions]
      omega
    · rw [counters, sameWorld, Counters.size_remove]

theorem respond (balanced : Balanced counter start group) {request : Request state}
    (fresh : group.Fresh request)
    (fits : start + bytes (group.respond request).regions < UInt64.size) :
    Balanced counter start (group.respond request) := by
  cases request with
  | elsewhere world => exact ⟨balanced.made, balanced.sink, balanced.filed, balanced.balance⟩
  | drop number =>
    cases known : group.session? number with
    | none =>
      simp only [BridgeGroup.respond, known]
      exact balanced
    | some session =>
      simp only [BridgeGroup.respond, known]
      exact balanced.drop known
  | call number call =>
    cases known : group.session? number with
    | none =>
      simp only [BridgeGroup.respond, known]
      exact balanced
    | some session =>
      simp only [BridgeGroup.respond, known] at fits ⊢
      exact balanced.call known (fresh session known) fits

/-- A mapping makes a bridge's table longer by one, an unmapping that finds its address shorter. -/
theorem length_respond (balanced : Balanced counter start group) {request : Request state}
    (fresh : group.Fresh request) {bridge : Bridge state}
    (present : (group.respond request).bridges[number]? = some (some bridge)) :
    ∃ before : Bridge state, group.bridges[number]? = some (some before) ∧
      bridge.regions.length + (group.counted RegionCall.finds number request).toNat =
        before.regions.length + (group.counted RegionCall.maps number request).toNat := by
  cases request with
  | elsewhere world => exact ⟨bridge, present, rfl⟩
  | drop other =>
    cases known : group.session? other with
    | none =>
      simp only [BridgeGroup.respond, known] at present
      exact ⟨bridge, present, rfl⟩
    | some session =>
      simp only [BridgeGroup.respond, known, List.getElem?_set] at present
      split at present
      case isTrue => split at present <;> simp at present
      case isFalse => exact ⟨bridge, present, rfl⟩
  | call other call =>
    cases known : group.session? other with
    | none =>
      simp only [BridgeGroup.respond, known] at present
      refine ⟨bridge, present, ?_⟩
      simp [counted, known]
    | some session =>
      simp only [BridgeGroup.respond, known, List.getElem?_set] at present
      split at present
      case isFalse different =>
        have elsewhere : (other == number) = false := by simpa using different
        refine ⟨bridge, present, ?_⟩
        simp [counted, elsewhere]
      case isTrue same =>
        subst same
        obtain ⟨here, -⟩ := session?_eq_some_iff.1 known
        have unique := balanced.filed _ (List.mem_of_getElem? here)
        refine ⟨session.bridge, here, ?_⟩
        obtain rfl : (call.perform.run session).2.bridge = bridge := by
          split at present <;> simp at present
          exact present
        simp only [counted, known, BEq.rfl, Bool.true_and, Option.any_some, RegionCall.maps]
        cases RegionCall.turn (fresh session known) with
        | kept unmapped unfound regions counters => simp [unmapped, unfound, regions]
        | filed region mapped unfound regions counters => simp [mapped, unfound, regions]
        | released region unmapped found inTable regions counters =>
          have shorter := (perm_filed unique inTable).length_eq
          rw [List.length_cons] at shorter
          simpa [unmapped, found, regions] using shorter

theorem after (balanced : Balanced counter start group) {history : List (Request state)}
    (admitted : Admits start group history) :
    Balanced counter start (group.after history) ∧
    ∀ number (bridge : Bridge state),
      (group.after history).bridges[number]? = some (some bridge) →
      ∃ before : Bridge state, group.bridges[number]? = some (some before) ∧
        bridge.regions.length + count RegionCall.finds number group history =
          before.regions.length + count RegionCall.maps number group history := by
  -- The lengths go on from the bridge that the first request leaves under the number.
  induction history generalizing group with
  | nil => exact ⟨balanced, fun number bridge present => ⟨bridge, present, rfl⟩⟩
  | cons request rest ih =>
    obtain ⟨fresh, fits, admitted⟩ := admitted
    obtain ⟨later, lengths⟩ := ih (balanced.respond fresh fits) admitted
    refine ⟨later, fun number bridge present => ?_⟩
    obtain ⟨middle, present, fromMiddle⟩ := lengths number bridge present
    obtain ⟨before, present, toMiddle⟩ := balanced.length_respond fresh present
    refine ⟨before, present, ?_⟩
    simp only [count]
    omega

end Balanced

theorem Ready.balanced {counter : CounterId} {group : BridgeGroup state}
    (ready : group.Ready counter) :
    Balanced counter (group.world.counters.current counter).toNat group where
  made := ready.made
  sink := ready.sink
  filed bridge mem := by
    rw [ready.empty bridge mem]
    exact List.nodup_nil
  balance := by
    have none : group.regions = [] := by
      rw [regions, List.flatMap_eq_nil_iff]
      intro bridge? mem
      cases bridge? with
      | none => rfl
      | some bridge => exact ready.empty bridge mem
    rw [none, bytes_nil, Nat.add_zero]

def tables (group : BridgeGroup state) : List (Option (List MappedRegion)) :=
  group.bridges.map (Option.map Bridge.regions)

theorem respond_of_failed {group : BridgeGroup state} {number : Nat} {session : Session state}
    (known : group.session? number = some session) {call : RegionCall}
    (mapping : call.target? = none) {fault : Fault}
    (failed : (call.perform.run session).1 = .error fault) :
    (group.respond (.call number call)).tables = group.tables ∧
      (group.respond (.call number call)).world.counters = group.world.counters := by
  obtain ⟨present, sameWorld⟩ := session?_eq_some_iff.1 known
  have effect := call.effect session
  simp only [respond, known, tables]
  generalize call.perform.run session = result at effect failed ⊢
  cases effect with
  | failed space fails missing =>
    have counters : _ = session.world.counters := fails.counters_eq
    refine ⟨?_, counters.trans (congrArg World.counters sameWorld)⟩
    apply List.ext_getElem?
    intro other
    rw [List.getElem?_map, List.getElem?_map, List.getElem?_set]
    split
    case isTrue same =>
      subst same
      rw [present, if_pos (List.getElem?_eq_some_iff.1 present).1]
      rfl
    case isFalse => rfl
  | filed maps => cases failed
  | released named => simp [mapping] at named

/-- Over any history of mappings, unmappings and drops the counter holds its start and the bytes of
the regions in the tables, each of which is found under its own address, and a table is as long as
the mappings of its bridge less the unmappings that found their address. -/
theorem pressure_after {counter : CounterId} {group : BridgeGroup state}
    (ready : group.Ready counter) (history : List (Request state))
    (admitted : Admits (group.world.counters.current counter).toNat group history) :
    let now := group.after history
    (now.world.counters.current counter).toNat =
        (group.world.counters.current counter).toNat + bytes now.regions ∧
      ∀ number session, now.session? number = some session →
        session.bridge.regions.length + count RegionCall.finds number group history =
            count RegionCall.maps number group history ∧
          (∀ region ∈ session.bridge.regions, session.bridge.regions.find? (fun known =>
            known.address == region.address) = some region) ∧
          ∀ call fault, call.target? = none → (call.perform.run session).1 = .error fault →
            (now.respond (.call number call)).tables = now.tables ∧
              (now.respond (.call number call)).world.counters = now.world.counters := by
  intro now
  obtain ⟨balanced, lengths⟩ := ready.balanced.after admitted
  refine ⟨balanced.balance, fun number session known => ⟨?_, ?_, ?_⟩⟩
  · obtain ⟨present, -⟩ := session?_eq_some_iff.1 known
    obtain ⟨first, atFirst, length⟩ := lengths number session.bridge present
    rw [ready.empty first (List.mem_of_getElem? atFirst)] at length
    simpa using length
  · obtain ⟨present, -⟩ := session?_eq_some_iff.1 known
    have unique := balanced.filed _ (List.mem_of_getElem? present)
    intro region inTable
    cases found : session.bridge.regions.find? fun known => known.address == region.address with
    | none => simpa using List.find?_eq_none.1 found region inTable
    | some known =>
      have same : known.address = region.address := by simpa using List.find?_some found
      exact congrArg some
        (List.inj_on_of_nodup_map unique (List.mem_of_find?_eq_some found) inTable same)
  · intro call fault mapping failed
    exact respond_of_failed known mapping failed

/-- Two bridges on one scripted backend that is going to fail an unmapping. -/
def pair : BridgeGroup Script :=
  let session := Session.onFile (.scripted { name := "scripted" })
    { unmapAnswers := [.error .accessDenied] }
  ⟨[some session.bridge, some session.bridge], session.world⟩

/-- Both bridges map, one unmaps natively with a wrong length while the backend fails, and then maps
again; of two more calls one has a wrong length and one finds nothing; the other bridge goes. -/
def pairHistory : List (Request Script) :=
  [.call 0 (.map ⟨2⟩ 0 0 4096), .call 1 (.nativeMap [.ref ⟨2⟩, .int 0, .long 0, .long 100]),
    .call 0 (.nativeUnmap [.long 65536, .long 1]), .call 0 (.map ⟨2⟩ 0 0 10),
    .call 0 (.map ⟨2⟩ 0 0 (-1)), .call 1 (.unmap 65536 100), .drop 1]

theorem pair_pressure :
    pair.Ready ⟨0⟩ ∧ Admits (pair.world.counters.current ⟨0⟩).toNat pair pairHistory ∧
      ((pair.after pairHistory).world.counters.current ⟨0⟩).toNat = 1000 + 10 := by
  -- One evaluation for all, since each builds the two bridges anew.
  obtain ⟨made, fresh, admitted, start, left⟩ :
      0 < pair.world.counters.held.size ∧
        (∀ bridge? ∈ pair.bridges, ∀ bridge ∈ bridge?,
          bridge.pressure = ⟨0⟩ ∧ bridge.regions = []) ∧
        Admits (pair.world.counters.current ⟨0⟩).toNat pair pairHistory ∧
        (pair.world.counters.current ⟨0⟩).toNat = 1000 ∧
        bytes (pair.after pairHistory).regions = 10 := by
    decide +kernel
  have ready : pair.Ready ⟨0⟩ :=
    ⟨made, fun bridge mem => (fresh _ mem bridge rfl).1,
      fun bridge mem => (fresh _ mem bridge rfl).2⟩
  refine ⟨ready, admitted, ?_⟩
  rw [(pressure_after ready pairHistory admitted).1, start, left]

end BridgeGroup

end GuestBridge
