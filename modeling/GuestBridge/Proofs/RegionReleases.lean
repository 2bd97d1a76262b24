import GuestBridge.Backend.Recorded
import GuestBridge.Backend.Scripted
import GuestBridge.Proofs.RegionCalls
import Mathlib.Logic.Function.Basic

/-!
What a bridge asks its backend to unmap, read off the backend's list of calls. Each mapping that
the backend made is unmapped once, with its address and length, and nothing else ever is: by the
guest, whatever length it names, or when the bridge goes.
-/
namespace GuestBridge

open Posix

/-- Neither a mapping that was made nor an unmapping. -/
def BackendCall.isQuiet : BackendCall → Bool
  | .map _ _ _ _ (some _) | .unmap _ _ => false
  | _ => true

def MapsAt (calls : List BackendCall) (index : Nat) (address length : UInt64) : Prop :=
  ∃ handle mode offset, calls[index]? = some (.map handle mode offset length (some address))

/-- A way to pair every mapping with the one unmapping of its region. -/
structure PairedOff (calls : List BackendCall) (release : Nat → Nat) : Prop where
  released : ∀ {index address length}, MapsAt calls index address length →
    index < release index ∧ calls[release index]? = some (.unmap address length)
  once : ∀ {index other address length address' length'}, MapsAt calls index address length →
    MapsAt calls other address' length' → release index = release other → index = other
  made : ∀ {later address length}, calls[later]? = some (.unmap address length) →
    ∃ index, MapsAt calls index address length ∧ release index = later

/-- Calls that leave these regions mapped. -/
inductive Books : List BackendCall → List MappedRegion → Prop where
  | empty : Books [] []
  | quiet {calls : List BackendCall} {regions : List MappedRegion} {call : BackendCall}
      (books : Books calls regions) (quiet : call.isQuiet = true) : Books (calls ++ [call]) regions
  | map {calls : List BackendCall} {regions : List MappedRegion} {handle : HandleId}
      {mode : MapMode} {offset : UInt64} {region : MappedRegion} (books : Books calls regions)
      (fresh : ∀ known ∈ regions, known.address ≠ region.address) :
      Books (calls ++ [.map handle mode offset region.length (some region.address)])
        (region :: regions)
  | unmap {calls : List BackendCall} {regions : List MappedRegion} {region : MappedRegion}
      (books : Books calls regions) (present : region ∈ regions) :
      Books (calls ++ [.unmap region.address region.length])
        (regions.filter fun known => known.address != region.address)

section Pairing

variable {calls : List BackendCall} {regions : List MappedRegion} {call : BackendCall}
  {release : Nat → Option Nat}

theorem getElem?_snoc_iff {index : Nat} {found : BackendCall} :
    (calls ++ [call])[index]? = some found ↔
      calls[index]? = some found ∨ index = calls.length ∧ call = found := by
  rw [List.getElem?_append]
  split
  case isTrue inside =>
    constructor
    · exact .inl
    · rintro (before | ⟨rfl, -⟩)
      · exact before
      · exact absurd inside (Nat.lt_irrefl _)
  case isFalse outside =>
    rw [List.getElem?_singleton]
    have absent : calls[index]? = none := List.getElem?_eq_none (Nat.le_of_not_lt outside)
    rw [absent]
    by_cases last : index = calls.length
    · subst last
      simp
    · have beyond : index - calls.length ≠ 0 := by omega
      simp [beyond, last]

theorem mapsAt_snoc_iff {index : Nat} {address length : UInt64} :
    MapsAt (calls ++ [call]) index address length ↔
      MapsAt calls index address length ∨ index = calls.length ∧
        ∃ handle mode offset, call = .map handle mode offset length (some address) := by
  simp only [MapsAt, getElem?_snoc_iff, exists_or, exists_and_left]

theorem MapsAt.index_lt {index : Nat} {address length : UInt64}
    (maps : MapsAt calls index address length) : index < calls.length := by
  obtain ⟨handle, mode, offset, found⟩ := maps
  exact (List.getElem?_eq_some_iff.1 found).1

theorem MapsAt.unique {index : Nat} {address length address' length' : UInt64}
    (maps : MapsAt calls index address length) (maps' : MapsAt calls index address' length') :
    address = address' ∧ length = length' := by
  obtain ⟨handle, mode, offset, found⟩ := maps
  obtain ⟨handle', mode', offset', found'⟩ := maps'
  rw [found] at found'
  cases found'
  exact ⟨rfl, rfl⟩

/-- Mappings paired with their unmappings as far as the calls go; the others are in the table. -/
structure Accounts (calls : List BackendCall) (regions : List MappedRegion)
    (release : Nat → Option Nat) : Prop where
  settled : ∀ {index address length}, MapsAt calls index address length →
    (∃ later, release index = some later ∧ index < later ∧
      calls[later]? = some (.unmap address length)) ∨
    release index = none ∧
      ∃ region ∈ regions, region.address = address ∧ region.length = length
  mapped : ∀ {index later}, release index = some later →
    ∃ address length, MapsAt calls index address length
  once : ∀ {index other later}, release index = some later → release other = some later →
    index = other
  made : ∀ {later address length}, calls[later]? = some (.unmap address length) →
    ∃ index, release index = some later
  held : ∀ {region}, region ∈ regions →
    ∃ index, MapsAt calls index region.address region.length ∧ release index = none
  single : ∀ {index other address length length'}, MapsAt calls index address length →
    MapsAt calls other address length' → release index = none → release other = none →
    index = other

theorem Accounts.later_lt (accounts : Accounts calls regions release) {index later : Nat}
    (released : release index = some later) : later < calls.length := by
  obtain ⟨address, length, maps⟩ := accounts.mapped released
  rcases accounts.settled maps with ⟨known, same, -, found⟩ | ⟨unreleased, -⟩
  · obtain rfl : known = later := Option.some.inj (same.symm.trans released)
    exact (List.getElem?_eq_some_iff.1 found).1
  · rw [released] at unreleased
    cases unreleased

theorem Accounts.quiet (accounts : Accounts calls regions release) (quiet : call.isQuiet = true) :
    Accounts (calls ++ [call]) regions release := by
  have maps {index : Nat} {address length : UInt64} :
      MapsAt (calls ++ [call]) index address length ↔ MapsAt calls index address length := by
    rw [mapsAt_snoc_iff]
    constructor
    · rintro (before | ⟨-, handle, mode, offset, rfl⟩)
      · exact before
      · cases quiet
    · exact .inl
  have unmaps {later : Nat} {address length : UInt64} :
      (calls ++ [call])[later]? = some (.unmap address length) ↔
        calls[later]? = some (.unmap address length) := by
    rw [getElem?_snoc_iff]
    constructor
    · rintro (before | ⟨-, rfl⟩)
      · exact before
      · cases quiet
    · exact .inl
  constructor
  case settled =>
    simp only [maps, unmaps]
    exact accounts.settled
  case mapped =>
    simp only [maps]
    exact accounts.mapped
  case once => exact accounts.once
  case made =>
    simp only [unmaps]
    exact accounts.made
  case held =>
    simp only [maps]
    exact accounts.held
  case single =>
    simp only [maps]
    exact accounts.single

theorem Accounts.map (accounts : Accounts calls regions release) (handle : HandleId)
    (mode : MapMode) (offset : UInt64) {region : MappedRegion}
    (fresh : ∀ known ∈ regions, known.address ≠ region.address) :
    Accounts (calls ++ [.map handle mode offset region.length (some region.address)])
      (region :: regions) release := by
  have maps {index : Nat} {address length : UInt64} :
      MapsAt (calls ++ [.map handle mode offset region.length (some region.address)]) index
          address length ↔
        MapsAt calls index address length ∨
          index = calls.length ∧ region.address = address ∧ region.length = length := by
    rw [mapsAt_snoc_iff]
    constructor
    · rintro (before | ⟨here, handle, mode, offset, same⟩)
      · exact .inl before
      · cases same
        exact .inr ⟨here, rfl, rfl⟩
    · rintro (before | ⟨here, rfl, rfl⟩)
      · exact .inl before
      · exact .inr ⟨here, handle, mode, offset, rfl⟩
  have unmaps {later : Nat} {address length : UInt64} :
      (calls ++ [.map handle mode offset region.length (some region.address)])[later]? =
          some (.unmap address length) ↔ calls[later]? = some (.unmap address length) := by
    rw [getElem?_snoc_iff]
    simp
  have unreleased : release calls.length = none := by
    cases released : release calls.length with
    | none => rfl
    | some later =>
      obtain ⟨address, length, before⟩ := accounts.mapped released
      exact absurd before.index_lt (Nat.lt_irrefl _)
  -- A mapping at the same address that is not released yet would be in the table.
  have apart {index : Nat} {length : UInt64} (before : MapsAt calls index region.address length)
      (still : release index = none) : False := by
    rcases accounts.settled before with ⟨later, released, -⟩ | ⟨-, known, inTable, same, -⟩
    · rw [still] at released
      cases released
    · exact fresh known inTable same
  constructor
  case settled =>
    intro index address length mapsAt
    rcases maps.1 mapsAt with before | ⟨rfl, rfl, rfl⟩
    · rcases accounts.settled before with
        ⟨later, released, after, found⟩ | ⟨still, known, inTable, same⟩
      · exact .inl ⟨later, released, after, unmaps.2 found⟩
      · exact .inr ⟨still, known, List.mem_cons_of_mem _ inTable, same⟩
    · exact .inr ⟨unreleased, region, List.mem_cons_self, rfl, rfl⟩
  case mapped =>
    intro index later released
    obtain ⟨address, length, before⟩ := accounts.mapped released
    exact ⟨address, length, maps.2 (.inl before)⟩
  case once => exact accounts.once
  case made =>
    simp only [unmaps]
    exact accounts.made
  case held =>
    intro known inTable
    rcases List.mem_cons.1 inTable with rfl | inTable
    · exact ⟨calls.length, maps.2 (.inr ⟨rfl, rfl, rfl⟩), unreleased⟩
    · obtain ⟨index, before, still⟩ := accounts.held inTable
      exact ⟨index, maps.2 (.inl before), still⟩
  case single =>
    intro index other address length length' mapsAt mapsAt' still still'
    rcases maps.1 mapsAt with before | ⟨rfl, rfl, rfl⟩ <;>
      rcases maps.1 mapsAt' with before' | ⟨rfl, same, -⟩
    · exact accounts.single before before' still still'
    · subst same
      exact (apart before still).elim
    · exact (apart before' still').elim
    · rfl

theorem Accounts.unmap (accounts : Accounts calls regions release) {region : MappedRegion}
    (present : region ∈ regions) :
    ∃ release, Accounts (calls ++ [.unmap region.address region.length])
      (regions.filter fun known => known.address != region.address) release := by
  -- The region's own mapping is open, and it is the one that the new call releases.
  obtain ⟨index, maps, unreleased⟩ := accounts.held present
  have mapsAt {other : Nat} {address length : UInt64} :
      MapsAt (calls ++ [.unmap region.address region.length]) other address length ↔
        MapsAt calls other address length := by
    rw [mapsAt_snoc_iff]
    simp
  have here : (calls ++ [.unmap region.address region.length])[calls.length]? =
      some (.unmap region.address region.length) := getElem?_snoc_iff.2 (.inr ⟨rfl, rfl⟩)
  have released {other later : Nat}
      (now : Function.update release index (some calls.length) other = some later) :
      other = index ∧ later = calls.length ∨ other ≠ index ∧ release other = some later := by
    rw [Function.update_apply] at now
    split at now
    case isTrue same => exact .inl ⟨same, (Option.some.inj now).symm⟩
    case isFalse different => exact .inr ⟨different, now⟩
  have stillOpen {other : Nat}
      (now : Function.update release index (some calls.length) other = none) :
      other ≠ index ∧ release other = none := by
    rw [Function.update_apply] at now
    split at now
    case isTrue same => cases now
    case isFalse different => exact ⟨different, now⟩
  refine ⟨Function.update release index (some calls.length), ?_⟩
  constructor
  case settled =>
    intro other address length mapsOther
    rw [mapsAt] at mapsOther
    by_cases same : other = index
    · subst same
      obtain ⟨rfl, rfl⟩ := maps.unique mapsOther
      exact .inl ⟨calls.length, Function.update_self .., maps.index_lt, here⟩
    · rw [Function.update_of_ne same]
      rcases accounts.settled mapsOther with
        ⟨later, was, after, found⟩ | ⟨still, known, inTable, rfl, rfl⟩
      · exact .inl ⟨later, was, after, getElem?_snoc_iff.2 (.inl found)⟩
      · have apart : known.address ≠ region.address := by
          intro sameAddress
          rw [sameAddress] at mapsOther
          exact same (accounts.single mapsOther maps still unreleased)
        exact .inr ⟨still, known, List.mem_filter.2 ⟨inTable, by simpa using apart⟩, rfl, rfl⟩
  case mapped =>
    intro other later now
    rcases released now with ⟨rfl, -⟩ | ⟨-, was⟩
    · exact ⟨region.address, region.length, mapsAt.2 maps⟩
    · obtain ⟨address, length, before⟩ := accounts.mapped was
      exact ⟨address, length, mapsAt.2 before⟩
  case once =>
    intro first second later now now'
    rcases released now with ⟨rfl, rfl⟩ | ⟨-, was⟩ <;>
      rcases released now' with ⟨rfl, last⟩ | ⟨-, was'⟩
    · rfl
    · exact absurd (accounts.later_lt was') (Nat.lt_irrefl _)
    · rw [last] at was
      exact absurd (accounts.later_lt was) (Nat.lt_irrefl _)
    · exact accounts.once was was'
  case made =>
    intro later address length found
    rcases getElem?_snoc_iff.1 found with before | ⟨rfl, -⟩
    · obtain ⟨other, was⟩ := accounts.made before
      have different : other ≠ index := by
        rintro rfl
        rw [unreleased] at was
        cases was
      exact ⟨other, by rw [Function.update_of_ne different, was]⟩
    · exact ⟨index, Function.update_self ..⟩
  case held =>
    intro known inTable
    obtain ⟨inTable, apart⟩ := List.mem_filter.1 inTable
    obtain ⟨other, before, still⟩ := accounts.held inTable
    have different : other ≠ index := by
      rintro rfl
      simp [(before.unique maps).1] at apart
    exact ⟨other, mapsAt.2 before, by rw [Function.update_of_ne different, still]⟩
  case single =>
    intro first second address length length' mapsFirst mapsSecond now now'
    exact accounts.single (mapsAt.1 mapsFirst) (mapsAt.1 mapsSecond) (stillOpen now).2
      (stillOpen now').2

theorem Books.accounts (books : Books calls regions) :
    ∃ release, Accounts calls regions release := by
  induction books with
  | empty =>
    have unmapped {index : Nat} {address length : UInt64} : ¬ MapsAt [] index address length := by
      rintro ⟨_, _, _, found⟩
      cases found
    refine ⟨fun _ => none, ?_⟩
    constructor
    case settled =>
      intro index address length maps
      exact absurd maps unmapped
    case mapped =>
      intro index later released
      cases released
    case once =>
      intro index other later released
      cases released
    case made =>
      intro later address length found
      cases found
    case held =>
      intro region present
      cases present
    case single =>
      intro index other address length length' maps
      exact absurd maps unmapped
  | quiet books quiet ih =>
    obtain ⟨release, accounts⟩ := ih
    exact ⟨release, accounts.quiet quiet⟩
  | map books fresh ih =>
    obtain ⟨release, accounts⟩ := ih
    exact ⟨release, accounts.map _ _ _ fresh⟩
  | unmap books present ih =>
    obtain ⟨release, accounts⟩ := ih
    exact accounts.unmap present

theorem Books.pairedOff (books : Books calls []) : ∃ release, PairedOff calls release := by
  obtain ⟨release, accounts⟩ := books.accounts
  have settled {index : Nat} {address length : UInt64}
      (maps : MapsAt calls index address length) : ∃ later, release index = some later ∧
        index < later ∧ calls[later]? = some (.unmap address length) := by
    rcases accounts.settled maps with released | ⟨-, region, present, -⟩
    · exact released
    · cases present
  refine ⟨fun index => (release index).getD 0, ?_⟩
  constructor
  case released =>
    intro index address length maps
    obtain ⟨later, released, after, found⟩ := settled maps
    simp only [released, Option.getD_some]
    exact ⟨after, found⟩
  case once =>
    intro index other address length address' length' maps maps' same
    obtain ⟨later, released, -⟩ := settled maps
    obtain ⟨later', released', -⟩ := settled maps'
    simp only [released, released', Option.getD_some] at same
    subst same
    exact accounts.once released released'
  case made =>
    intro later address length found
    obtain ⟨index, released⟩ := accounts.made found
    obtain ⟨address', length', maps⟩ := accounts.mapped released
    obtain ⟨known, again, -, unmaps⟩ := settled maps
    obtain rfl : known = later := Option.some.inj (again.symm.trans released)
    rw [found] at unmaps
    cases unmaps
    exact ⟨index, maps, by rw [released, Option.getD_some]⟩

end Pairing

section Steps

variable {state : Type} {backend : Backend state} {channel : Channel (Recording state)}
  {regions : List MappedRegion}

theorem Backend.calls_readAhead {handle : HandleId} {offset length : UInt64}
    {before after : Machine (Recording state)} {outcome : Except SystemError Unit}
    (ran : (backend.recorded.readAhead handle offset length).run before = (outcome, after)) :
    after.own.calls = before.own.calls ++ [.readAhead handle offset length] := by
  cases ran
  rfl

theorem Backend.calls_mapMemory {handle : HandleId} {mode : MapMode} {offset length : UInt64}
    {before after : Machine (Recording state)} {outcome : Except SystemError UInt64}
    (ran : (backend.recorded.mapMemory handle mode offset length).run before = (outcome, after)) :
    after.own.calls = before.own.calls ++ [.map handle mode offset length outcome.toOption] := by
  cases ran
  rfl

namespace Books

open World

variable {world after : World (Recording state)}

theorem ahead (books : Books world.backends.calls regions)
    (recorded : channel.backend = backend.recorded) {handle : HandleId} {offset length : UInt64}
    (ahead : channel.Ahead handle offset length world after) :
    Books after.backends.calls regions := by
  cases ahead with
  | skipped => exact books
  | advised on ran =>
    rw [recorded] at ran
    rw [machinePart, Backend.calls_readAhead ran]
    exact books.quiet rfl

theorem failsToMap (books : Books world.backends.calls regions)
    (recorded : channel.backend = backend.recorded) (fails : channel.FailsToMap world after) :
    Books after.backends.calls regions := by
  cases fails with
  | refused => exact books
  | unadvised ran =>
    rw [recorded] at ran
    rw [machinePart, Backend.calls_readAhead ran]
    exact books.quiet rfl
  | unmapped ahead ran =>
    have advised := books.ahead recorded ahead
    rw [recorded] at ran
    rw [machinePart, Backend.calls_mapMemory ran]
    exact advised.quiet rfl

theorem maps (books : Books world.backends.calls regions)
    (recorded : channel.backend = backend.recorded) {region : MappedRegion}
    (maps : channel.Maps world region after)
    (fresh : ∀ known ∈ regions, known.address ≠ region.address) :
    Books after.backends.calls (region :: regions) := by
  cases maps with
  | mapped ahead ran =>
    have advised := books.ahead recorded ahead
    rw [recorded] at ran
    rw [machinePart, Backend.calls_mapMemory ran]
    exact advised.map fresh

theorem giveBack (books : Books world.backends.calls regions)
    (recorded : channel.backend = backend.recorded) {region : MappedRegion}
    (present : region ∈ regions) :
    Books ((channel.unmap region).run world).2.backends.calls
      (regions.filter fun known => known.address != region.address) := by
  have asked : ((channel.unmap region).run world).2.backends.calls =
      world.backends.calls ++ [.unmap region.address region.length] := by
    rw [channel.run_unmap, recorded]
    rfl
  rw [asked]
  exact books.unmap present

theorem unique {calls : List BackendCall} (books : Books calls regions) :
    (regions.map MappedRegion.address).Nodup := by
  induction books with
  | empty => exact List.nodup_nil
  | quiet books quiet ih => exact ih
  | map books fresh ih => exact MappedRegion.nodup_cons.2 ⟨fresh, ih⟩
  | unmap books present ih => exact ih.sublist (List.filter_sublist.map _)

theorem drop (books : Books world.backends.calls regions)
    (recorded : channel.backend = backend.recorded) :
    Books (regions.foldl (fun world region => ((channel.unmap region).run world).2)
      world).backends.calls [] := by
  induction regions generalizing world with
  | nil => exact books
  | cons region rest ih =>
    obtain ⟨others, -⟩ := MappedRegion.nodup_cons.1 books.unique
    have left := books.giveBack recorded List.mem_cons_self
    rw [List.filter_cons_of_neg (by simp), MappedRegion.filter_others others] at left
    exact ih left

end Books

namespace Recording

inductive Request (state : Type) where
  | call (call : RegionCall)
  /-- The world changes otherwise. -/
  | elsewhere (world : World (Recording state))

def respond (session : Session (Recording state)) : Request state → Session (Recording state)
  | .call call => (call.perform.run session).2
  | .elsewhere world =>
    { session with
      world :=
        { world with
          backends := { world.backends with calls := session.world.backends.calls } } }

def after (session : Session (Recording state)) (history : List (Request state)) :
    Session (Recording state) :=
  history.foldl respond session

/-- No mapping of the history is where the bridge still has a region. -/
def Fresh : Session (Recording state) → List (Request state) → Prop
  | _, [] => True
  | session, request :: rest =>
    (match request with
      | .call call => call.Fresh session
      | .elsewhere _ => True) ∧ Fresh (respond session request) rest

instance decidableFresh : (session : Session (Recording state)) → (history : List (Request state)) →
    Decidable (Fresh session history)
  | _, [] => .isTrue trivial
  | session, .call call :: rest =>
    have := decidableFresh (respond session (.call call)) rest
    inferInstanceAs (Decidable (call.Fresh session ∧ _))
  | session, .elsewhere world :: rest =>
    have := decidableFresh (respond session (.elsewhere world)) rest
    inferInstanceAs (Decidable (True ∧ _))

/-- A bridge whose backend is recorded and was not asked for anything yet. -/
structure Ready (backend : Backend state) (session : Session (Recording state)) : Prop where
  recorded : session.bridge.backend = backend.recorded
  empty : session.bridge.regions = []
  unasked : session.world.backends.calls = []

structure Kept (backend : Backend state) (session : Session (Recording state)) : Prop where
  recorded : session.bridge.backend = backend.recorded
  books : Books session.world.backends.calls session.bridge.regions

theorem Kept.perform {session : Session (Recording state)} (kept : Kept backend session)
    {call : RegionCall} (fresh : call.Fresh session) :
    Kept backend (call.perform.run session).2 := by
  have effect := call.effect session
  have mapped : call.mapped? session = (call.perform.run session).1.toOption.join := rfl
  have recorded : session.bridge.channel.backend = backend.recorded := kept.recorded
  generalize call.perform.run session = result at effect mapped ⊢
  cases effect with
  | failed space fails missing =>
    have reached : Books (Session.memberPart.set space session).world.backends.calls
      session.bridge.regions := kept.books
    exact ⟨kept.recorded, reached.failsToMap recorded fails⟩
  | @filed space region world maps mapping =>
    have reached : Books (Session.memberPart.set space session).world.backends.calls
      session.bridge.regions := kept.books
    have others := fresh region.address mapped
    refine ⟨kept.recorded, ?_⟩
    rw [MappedRegion.filter_others others]
    exact reached.maps recorded maps others
  | @released address region named found =>
    refine ⟨kept.recorded, ?_⟩
    have same : region.address = address := by simpa using List.find?_some found
    rw [← same]
    exact kept.books.giveBack recorded (List.mem_of_find?_eq_some found)

theorem Kept.after {session : Session (Recording state)} (kept : Kept backend session)
    {history : List (Request state)} (fresh : Fresh session history) :
    Kept backend (after session history) := by
  induction history generalizing session with
  | nil => exact kept
  | cons request rest ih =>
    obtain ⟨now, later⟩ := fresh
    apply ih _ later
    cases request with
    | call call => exact kept.perform now
    | elsewhere world => exact ⟨kept.recorded, kept.books⟩

/-- However a history of calls goes, when the bridge is dropped each mapping that its backend made
has been unmapped once, with its own address and length, and nothing else has been. An address
without a region never gets as far as the backend. Through the natives addresses are signed, with
the same outcome. -/
theorem paired_after {session : Session (Recording state)} (ready : Ready backend session)
    (history : List (Request state)) (fresh : Fresh session history) :
    let now := after session history
    (∃ release, PairedOff (Bridge.drop now).backends.calls release) ∧
      (∀ address, (∀ region ∈ now.bridge.regions, region.address ≠ address) →
        let refused : Fault :=
          .io ("Unmap failed. No mapping at " ++ Bridge.hexadecimal address ++ ".") none
        (∀ length, (Bridge.unmap address length).run now = (.error refused, now)) ∧
          ∀ length, (Native.unmap [.long address.toInt64, .long length]).run now =
            (.error refused, now)) ∧
      (∀ address (length : Int64), (Native.unmap [.long address.toInt64, .long length]).run now =
        ((fun _ => Value.int 0) <$> Bridge.unmap address length.toUInt64).run now) ∧
      ∀ channel protection position length,
        (Native.map [.ref channel, .int protection, .long position, .long length]).run now =
          ((fun address => Value.long address.toInt64) <$>
            Bridge.map channel protection position length).run now := by
  intro now
  have start : Kept backend session := by
    refine ⟨ready.recorded, ?_⟩
    rw [ready.empty, ready.unasked]
    exact .empty
  have kept : Kept backend now := start.after fresh
  refine ⟨?_, ?_, ?_, ?_⟩
  · exact (kept.books.drop kept.recorded).pairedOff
  · intro address missing refused
    have absent : now.bridge.regions.find? (fun known => known.address == address) = none := by
      rw [List.find?_eq_none]
      intro region inTable
      simpa using missing region inTable
    refine ⟨fun length => RegionCall.run_unmap_of_missing length absent, fun length => ?_⟩
    rw [RegionCall.run_native_unmap, Action.run_map, RegionCall.run_unmap_of_missing _ absent]
    rfl
  · intro address length
    exact RegionCall.run_native_unmap address length now
  · intro channel protection position length
    exact RegionCall.run_native_map channel protection position length now

/-- A bridge whose backend maps at a high address first and fails its first unmapping. -/
def high : Session (Recording Script) :=
  Session.onFile (Backend.scripted { name := "scripted" }).recorded
    ⟨{ mapAnswers := [.ok 0xFFFFFFFFFFFF0000], unmapAnswers := [.error .accessDenied] }, []⟩

/-- Two mappings, and unmappings of the first one natively with a wrong length, and then again. -/
def highHistory : List (Request Script) :=
  [.call (.nativeMap [.ref ⟨2⟩, .int 0, .long 0, .long 4096]), .call (.map ⟨2⟩ 0 0 100),
    .call (.nativeUnmap [.long (-65536), .long 1]), .call (.unmap 0xFFFFFFFFFFFF0000 4096)]

theorem high_paired :
    (Bridge.drop (after high highHistory)).backends.calls =
        [.readAhead ⟨0⟩ 0 4096, .map ⟨0⟩ .readOnly 0 4096 (some 0xFFFFFFFFFFFF0000),
          .readAhead ⟨0⟩ 0 100, .map ⟨0⟩ .readOnly 0 100 (some 131072),
          .unmap 0xFFFFFFFFFFFF0000 4096, .unmap 131072 100] ∧
      ∃ release, PairedOff (Bridge.drop (after high highHistory)).backends.calls release := by
  obtain ⟨empty, unasked, fresh, calls⟩ :
      high.bridge.regions = [] ∧ high.world.backends.calls = [] ∧ Fresh high highHistory ∧
        (Bridge.drop (after high highHistory)).backends.calls =
          [.readAhead ⟨0⟩ 0 4096, .map ⟨0⟩ .readOnly 0 4096 (some 0xFFFFFFFFFFFF0000),
            .readAhead ⟨0⟩ 0 100, .map ⟨0⟩ .readOnly 0 100 (some 131072),
            .unmap 0xFFFFFFFFFFFF0000 4096, .unmap 131072 100] := by
    decide +kernel
  have ready : Ready (Backend.scripted { name := "scripted" }) high := ⟨rfl, empty, unasked⟩
  exact ⟨calls, (paired_after ready highHistory fresh).1⟩

end Recording

end Steps

end GuestBridge
