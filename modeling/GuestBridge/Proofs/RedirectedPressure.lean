import GuestBridge.Proofs.PressureBalance

/-!
A bridge whose mapped memory is counted on one counter after another. An unmapping takes the length
off the counter of the moment, while the mapping added it to the counter of its own moment. Where
these two are the same for every region given back, each counter holds its start and the bytes of
the regions that it was charged with; where they are not, the one keeps bytes of no region, and the
other loses what it never had.
-/
namespace GuestBridge

/-- A bridge with its world, and for the addresses mapped so far the counters that were charged. -/
structure PressureTrail (state : Type) where
  session : Session state
  charged : UInt64 → CounterId

namespace PressureTrail

open BridgeGroup MappedRegion

inductive Request (state : Type) where
  | call (call : RegionCall)
  | redirect (counter : CounterId)
  /-- All else in the world changes, but no counter. -/
  | elsewhere (world : World state)

variable {state : Type}

def begin (session : Session state) : PressureTrail state :=
  ⟨session, fun _ => session.bridge.pressure⟩

def respond (trail : PressureTrail state) : Request state → PressureTrail state
  | .call call =>
    { session := (call.perform.run trail.session).2
      charged := fun address =>
        if call.mapped? trail.session = some address then trail.session.bridge.pressure
        else trail.charged address }
  | .redirect counter =>
    { trail with
      session := { trail.session with bridge := trail.session.bridge.redirectPressure counter } }
  | .elsewhere world =>
    { trail with
      session := { trail.session with
        world := { world with counters := trail.session.world.counters } } }

def after (trail : PressureTrail state) (history : List (Request state)) : PressureTrail state :=
  history.foldl respond trail

/-- The regions in the table that a counter was charged with. -/
def chargedTo (trail : PressureTrail state) (counter : CounterId) : List MappedRegion :=
  trail.session.bridge.regions.filter fun region => trail.charged region.address = counter

/-- The regions that are given back were charged to the counter of now. -/
def Pairs (trail : PressureTrail state) (left : List MappedRegion) : Prop :=
  ∀ region ∈ trail.session.bridge.regions, region ∉ left →
    trail.charged region.address = trail.session.bridge.pressure

instance (trail : PressureTrail state) (left : List MappedRegion) : Decidable (trail.Pairs left) :=
  inferInstanceAs (Decidable (∀ region ∈ trail.session.bridge.regions, region ∉ left →
    trail.charged region.address = trail.session.bridge.pressure))

/-- A request that maps nothing where a region is, gives back what the counter of now was charged
with, and only ever counts on counters that there are. -/
def Sound (trail : PressureTrail state) : Request state → Prop
  | .call call =>
    call.Fresh trail.session ∧ trail.Pairs (call.perform.run trail.session).2.bridge.regions
  | .redirect counter => counter.index < trail.session.world.counters.held.size
  | .elsewhere _ => True

instance (trail : PressureTrail state) : (request : Request state) → Decidable (trail.Sound request)
  | .call call =>
    inferInstanceAs (Decidable (call.Fresh trail.session ∧
      trail.Pairs (call.perform.run trail.session).2.bridge.regions))
  | .redirect counter =>
    inferInstanceAs (Decidable (counter.index < trail.session.world.counters.held.size))
  | .elsewhere _ => .isTrue trivial

/-- The counter of now can hold its start and all that it was charged with. -/
def Fits (start : Counters) (trail : PressureTrail state) : Prop :=
  (start.current trail.session.bridge.pressure).toNat +
    bytes (trail.chargedTo trail.session.bridge.pressure) < UInt64.size

instance (start : Counters) (trail : PressureTrail state) : Decidable (trail.Fits start) :=
  inferInstanceAs (Decidable (_ < _))

/-- A history of such requests in which no counter reaches 64 bits. -/
def Admits (start : Counters) : PressureTrail state → List (Request state) → Prop
  | _, [] => True
  | trail, request :: rest =>
    trail.Sound request ∧ (trail.respond request).Fits start ∧
      Admits start (trail.respond request) rest

instance decidableAdmits (start : Counters) : (trail : PressureTrail state) →
    (history : List (Request state)) → Decidable (Admits start trail history)
  | _, [] => .isTrue trivial
  | trail, request :: rest =>
    have := decidableAdmits start (trail.respond request) rest
    inferInstanceAs (Decidable (_ ∧ _ ∧ _))

section Charged

variable {trail : PressureTrail state} {call : RegionCall} {region : MappedRegion}

theorem chargedTo_kept (unmapped : call.mapped? trail.session = none)
    (regions : (call.perform.run trail.session).2.bridge.regions = trail.session.bridge.regions)
    (counter : CounterId) :
    (trail.respond (.call call)).chargedTo counter = trail.chargedTo counter := by
  simp [respond, chargedTo, regions, unmapped]

/-- The counter of the moment is charged with a new region. -/
theorem chargedTo_filed (mapped : call.mapped? trail.session = some region.address)
    (others : ∀ known ∈ trail.session.bridge.regions, known.address ≠ region.address)
    (regions : (call.perform.run trail.session).2.bridge.regions =
      region :: trail.session.bridge.regions) (counter : CounterId) :
    (trail.respond (.call call)).chargedTo counter =
      if trail.session.bridge.pressure = counter then region :: trail.chargedTo counter
      else trail.chargedTo counter := by
  have before : trail.session.bridge.regions.filter (fun known =>
      (if region.address = known.address then trail.session.bridge.pressure
        else trail.charged known.address) = counter) = trail.chargedTo counter := by
    apply List.filter_congr
    intro known present
    rw [if_neg (others known present).symm]
  simp only [respond, chargedTo, regions, mapped, Option.some.injEq, List.filter_cons, if_true,
    decide_eq_true_eq]
  rw [before]
  rfl

theorem chargedTo_released (unmapped : call.mapped? trail.session = none)
    (regions : (call.perform.run trail.session).2.bridge.regions =
      trail.session.bridge.regions.filter fun known => known.address != region.address)
    (counter : CounterId) :
    (trail.respond (.call call)).chargedTo counter =
      (trail.chargedTo counter).filter fun known => known.address != region.address := by
  simp only [respond, chargedTo, regions, unmapped, List.filter_filter, Bool.and_comm, reduceCtorEq,
    if_false]

theorem mem_chargedTo {counter : CounterId} : region ∈ trail.chargedTo counter ↔
    region ∈ trail.session.bridge.regions ∧ trail.charged region.address = counter := by
  simp [chargedTo]

end Charged

/-- Giving regions back leaves the other counters. -/
theorem current_giveBack_of_ne (channel : Channel state) (regions : List MappedRegion)
    (world : World state) {counter : CounterId} (different : counter ≠ channel.pressure) :
    (regions.foldl (fun world region => ((channel.unmap region).run world).2)
      world).counters.current counter = world.counters.current counter := by
  induction regions generalizing world with
  | nil => rfl
  | cons region rest ih =>
    rw [List.foldl_cons, ih, channel.run_unmap]
    exact Counters.current_remove_of_ne _ different

structure Balanced (start : Counters) (trail : PressureTrail state) : Prop where
  made : trail.session.bridge.pressure.index < trail.session.world.counters.held.size
  filed : (trail.session.bridge.regions.map MappedRegion.address).Nodup
  balance : ∀ counter, (trail.session.world.counters.current counter).toNat =
    (start.current counter).toNat + bytes (trail.chargedTo counter)

namespace Balanced

variable {start : Counters} {trail : PressureTrail state}

theorem call (balanced : Balanced start trail) {call : RegionCall}
    (sound : trail.Sound (.call call)) (fits : (trail.respond (.call call)).Fits start) :
    Balanced start (trail.respond (.call call)) := by
  obtain ⟨fresh, pairs⟩ := sound
  obtain ⟨made, unique, balance⟩ := balanced
  have sameSink := call.pressure_perform trail.session
  have fits : (start.current trail.session.bridge.pressure).toNat +
      bytes ((trail.respond (.call call)).chargedTo trail.session.bridge.pressure) <
        UInt64.size := by
    simpa only [Fits, PressureTrail.respond, sameSink] using fits
  cases RegionCall.turn fresh with
  | kept unmapped unfound regions counters =>
    refine ⟨?_, ?_, fun counter => ?_⟩
    · simpa only [respond, sameSink, counters] using made
    · simpa only [respond, regions] using unique
    · rw [chargedTo_kept unmapped regions]
      simpa only [respond, counters] using balance counter
  | filed region mapped unfound regions counters =>
    have others : ∀ known ∈ trail.session.bridge.regions, known.address ≠ region.address :=
      fresh region.address mapped
    rw [chargedTo_filed mapped others regions, if_pos rfl, bytes_cons] at fits
    refine ⟨?_, ?_, fun counter => ?_⟩
    · simpa only [respond, sameSink, counters, Counters.size_add] using made
    · simp only [respond, regions]
      exact MappedRegion.nodup_cons.2 ⟨others, unique⟩
    · have before := balance counter
      rw [chargedTo_filed mapped others regions]
      simp only [respond, counters]
      by_cases same : trail.session.bridge.pressure = counter
      · subst same
        rw [if_pos rfl, bytes_cons, Counters.current_add _ made,
          MemoryPressure.toNat_add (by omega)]
        omega
      · rw [if_neg same, Counters.current_add_of_ne _ (Ne.symm same), before]
  | released region unmapped found present regions counters =>
    -- Only here does it matter that the counter is the one that went up.
    have charged : trail.charged region.address = trail.session.bridge.pressure :=
      pairs region present (by simp [regions])
    refine ⟨?_, ?_, fun counter => ?_⟩
    · simpa only [respond, sameSink, counters, Counters.size_remove] using made
    · simp only [respond, regions]
      exact unique.sublist (List.filter_sublist.map _)
    · have before := balance counter
      rw [chargedTo_released unmapped regions]
      simp only [respond, counters]
      by_cases same : trail.session.bridge.pressure = counter
      · subst same
        have apart :
            ((trail.chargedTo trail.session.bridge.pressure).map MappedRegion.address).Nodup :=
          unique.sublist (List.filter_sublist.map _)
        have ofRegion := bytes_filed apart (mem_chargedTo.2 ⟨present, charged⟩)
        rw [Counters.current_remove _ made, MemoryPressure.toNat_remove]
        omega
      · have others : ∀ known ∈ trail.chargedTo counter, known.address ≠ region.address := by
          intro known known_mem equal
          rw [mem_chargedTo, equal, charged] at known_mem
          exact same known_mem.2
        rw [MappedRegion.filter_others others, Counters.current_remove_of_ne _ (Ne.symm same),
          before]

theorem respond (balanced : Balanced start trail) {request : Request state}
    (sound : trail.Sound request) (fits : (trail.respond request).Fits start) :
    Balanced start (trail.respond request) := by
  cases request with
  | call call => exact balanced.call sound fits
  | redirect counter => exact ⟨sound, balanced.filed, balanced.balance⟩
  | elsewhere world => exact ⟨balanced.made, balanced.filed, balanced.balance⟩

theorem after (balanced : Balanced start trail) {history : List (Request state)}
    (admitted : Admits start trail history) : Balanced start (trail.after history) := by
  induction history generalizing trail with
  | nil => exact balanced
  | cons request rest ih =>
    obtain ⟨sound, fits, admitted⟩ := admitted
    exact ih (balanced.respond sound fits) admitted

/-- Giving all back that is left restores every counter, if all of it was charged to the last. -/
theorem current_drop (balanced : Balanced start trail) (pairs : trail.Pairs [])
    (counter : CounterId) :
    (Bridge.drop trail.session).counters.current counter = start.current counter := by
  have restored (region : MappedRegion) (present : region ∈ trail.session.bridge.regions) :
      trail.charged region.address = trail.session.bridge.pressure :=
    pairs region present List.not_mem_nil
  have before := balanced.balance counter
  by_cases same : counter = trail.session.bridge.pressure
  · subst same
    have all : trail.chargedTo trail.session.bridge.pressure = trail.session.bridge.regions :=
      List.filter_eq_self.2 fun region present => by simpa using restored region present
    have current : ((Bridge.drop trail.session).counters.current
        trail.session.bridge.pressure).toNat = _ :=
      (current_giveBack trail.session.bridge.channel trail.session.bridge.regions
        balanced.made).2
    rw [all] at before
    apply UInt64.toNat_inj.1
    rw [current]
    change (trail.session.world.counters.current trail.session.bridge.pressure).toNat - _ = _
    omega
  · have none : trail.chargedTo counter = [] :=
      List.filter_eq_nil_iff.2 fun region present => by
        simpa [restored region present] using Ne.symm same
    have current : (Bridge.drop trail.session).counters.current counter = _ :=
      current_giveBack_of_ne trail.session.bridge.channel trail.session.bridge.regions
        trail.session.world same
    rw [none, bytes_nil] at before
    rw [current]
    exact UInt64.toNat_inj.1 before

end Balanced

theorem balanced_begin {session : Session state} (empty : session.bridge.regions = [])
    (made : session.bridge.pressure.index < session.world.counters.held.size) :
    Balanced session.world.counters (begin session) where
  made := made
  filed := by
    rw [begin, empty]
    exact List.nodup_nil
  balance counter := by simp [begin, chargedTo, empty]

/-- As long as each region goes under the counter that it was charged to, every counter holds its
start and the bytes it was charged with. With an empty table each is back at its start, and so it is
when the bridge goes and gives back the rest. -/
theorem counters_restored {session : Session state} (empty : session.bridge.regions = [])
    (made : session.bridge.pressure.index < session.world.counters.held.size)
    (history : List (Request state))
    (admitted : Admits session.world.counters (begin session) history) :
    let now := (begin session).after history
    (∀ counter, (now.session.world.counters.current counter).toNat =
      (session.world.counters.current counter).toNat + bytes (now.chargedTo counter)) ∧
    (now.session.bridge.regions = [] → ∀ counter,
      now.session.world.counters.current counter = session.world.counters.current counter) ∧
    (now.Pairs [] → ∀ counter,
      (Bridge.drop now.session).counters.current counter =
        session.world.counters.current counter) := by
  intro now
  have balanced : Balanced session.world.counters now :=
    (balanced_begin empty made).after admitted
  refine ⟨balanced.balance, fun none counter => ?_, balanced.current_drop⟩
  have paired : now.Pairs [] := by
    intro region present
    simp [none] at present
  have restored := balanced.current_drop paired counter
  rw [Bridge.drop, none] at restored
  exact restored

/-- A bridge with a channel on an open file, and two counters. -/
def onTwoCounters : Session Script :=
  let session := Session.onFile (.scripted { name := "scripted" }) {}
  { session with world := { session.world with counters := ⟨#[1000, 7]⟩ } }

/-- The second counter is charged while the first region is mapped, and relieved before the first
counter is again the one of the bridge. -/
theorem counters_restored_of_detour :
    let history : List (Request Script) :=
      [.call (.map ⟨2⟩ 0 0 10), .redirect ⟨1⟩, .call (.map ⟨2⟩ 0 0 20), .call (.unmap 131072 20),
        .redirect ⟨0⟩]
    let now := (begin onTwoCounters).after history
    now.session.bridge.regions.map MappedRegion.address = [65536] ∧
      (now.session.world.counters.current ⟨0⟩).toNat = 1010 ∧
      (Bridge.drop now.session).counters.current ⟨0⟩ = 1000 ∧
      (Bridge.drop now.session).counters.current ⟨1⟩ = 7 := by
  intro history now
  obtain ⟨empty, made, admitted, start, left, charged, paired⟩ :
      onTwoCounters.bridge.regions = [] ∧
        onTwoCounters.bridge.pressure.index < onTwoCounters.world.counters.held.size ∧
        Admits onTwoCounters.world.counters (begin onTwoCounters) history ∧
        onTwoCounters.world.counters.held = #[1000, 7] ∧
        now.session.bridge.regions.map MappedRegion.address = [65536] ∧
        bytes (now.chargedTo ⟨0⟩) = 10 ∧ now.Pairs [] := by
    decide +kernel
  obtain ⟨balance, -, dropped⟩ := counters_restored empty made history admitted
  refine ⟨left, ?_, ?_, ?_⟩
  · rw [balance, charged, Counters.current, start]
    rfl
  · rw [dropped paired, Counters.current, start]
    rfl
  · rw [dropped paired, Counters.current, start]
    rfl

/-- A region is charged to the first counter and taken off the second one: nothing is mapped any
more, and neither counter is where it was. -/
theorem counters_of_stray_unmapping :
    let now := (begin onTwoCounters).after
      [.call (.map ⟨2⟩ 0 0 10), .redirect ⟨1⟩, .call (.unmap 65536 10)]
    onTwoCounters.world.counters.held = #[1000, 7] ∧ now.session.bridge.regions = [] ∧
      now.session.world.counters.held = #[1010, 0] := by
  decide +kernel

end PressureTrail

end GuestBridge
