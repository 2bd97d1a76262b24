import GuestBridge.Native.Channel

/-!
Guest calls that map memory and give it back, made on a bridge or through the native functions, and
all that one of them can do: it fails and leaves the table of regions, it files a region that was
just mapped, or it takes a region off the table and gives that one back.
-/
namespace GuestBridge

theorem MappedRegion.nodup_cons {region : MappedRegion} {rest : List MappedRegion} :
    ((region :: rest).map MappedRegion.address).Nodup ↔
      (∀ known ∈ rest, known.address ≠ region.address) ∧
        (rest.map MappedRegion.address).Nodup := by
  simp only [List.map_cons, List.nodup_cons, List.mem_map, not_exists, not_and]

theorem MappedRegion.filter_others {regions : List MappedRegion} {address : UInt64}
    (others : ∀ known ∈ regions, known.address ≠ address) :
    regions.filter (fun known => known.address != address) = regions := by
  rw [List.filter_eq_self]
  intro known present
  simpa using others known present

namespace Channel

open World

variable {state : Type}

inductive Ahead (channel : Channel state) (handle : Posix.HandleId) (offset length : UInt64)
    (world : World state) : World state → Prop where
  | skipped (off : channel.readsAhead = false) : Ahead channel handle offset length world world
  | advised {machine : Machine state} (on : channel.readsAhead = true)
      (ran : (channel.backend.readAhead handle offset length).run (machinePart.get world) =
        (.ok (), machine)) :
      Ahead channel handle offset length world (machinePart.set machine world)

/-- What a failed mapping leaves: the world as it was, or what the failing backend call left. -/
inductive FailsToMap (channel : Channel state) (world : World state) : World state → Prop where
  | refused : FailsToMap channel world world
  | unadvised {handle : Posix.HandleId} {offset length : UInt64} {cause : SystemError}
      {machine : Machine state}
      (ran : (channel.backend.readAhead handle offset length).run (machinePart.get world) =
        (.error cause, machine)) :
      FailsToMap channel world (machinePart.set machine world)
  | unmapped {handle : Posix.HandleId} {mode : MapMode} {offset length : UInt64}
      {advised : World state} {cause : SystemError} {machine : Machine state}
      (ahead : channel.Ahead handle offset length world advised)
      (ran : (channel.backend.mapMemory handle mode offset length).run (machinePart.get advised) =
        (.error cause, machine)) :
      FailsToMap channel world (machinePart.set machine advised)

inductive Maps (channel : Channel state) (world : World state) :
    MappedRegion → World state → Prop where
  | mapped {handle : Posix.HandleId} {mode : MapMode} {offset length address : UInt64}
      {advised : World state} {machine : Machine state}
      (ahead : channel.Ahead handle offset length world advised)
      (ran : (channel.backend.mapMemory handle mode offset length).run (machinePart.get advised) =
        (.ok address, machine)) :
      Maps channel world ⟨address, length, mode⟩
        { machinePart.set machine advised with
          counters := world.counters.add channel.pressure length }

theorem Ahead.counters_eq {channel : Channel state} {handle : Posix.HandleId}
    {offset length : UInt64} {world advised : World state}
    (ahead : channel.Ahead handle offset length world advised) :
    advised.counters = world.counters := by
  cases ahead <;> rfl

theorem FailsToMap.counters_eq {channel : Channel state} {world after : World state}
    (fails : channel.FailsToMap world after) : after.counters = world.counters := by
  cases fails with
  | refused => rfl
  | unadvised => rfl
  | unmapped ahead => exact ahead.counters_eq

inductive MapOutcome (channel : Channel state) (world : World state) :
    Except Fault MappedRegion × World state → Prop where
  | failed {fault : Fault} {after : World state} (fails : channel.FailsToMap world after) :
      MapOutcome channel world (.error fault, after)
  | done {region : MappedRegion} {after : World state} (maps : channel.Maps world region after) :
      MapOutcome channel world (.ok region, after)

theorem mapMemory_outcome {channel : Channel state} {handle : Posix.HandleId}
    {offset length : UInt64} {world advised : World state} (mode : MapMode)
    (ahead : channel.Ahead handle offset length world advised) :
    channel.MapOutcome world
      ((do
        let address ← onMachine
          ((channel.backend.mapMemory handle mode offset length).mapFailure mapFault)
        changeCounters (·.add channel.pressure length)
        return (⟨address, length, mode⟩ : MappedRegion)).run advised) := by
  simp only [Action.run_bind, onMachine, Action.run_within, Action.run_mapFailure]
  rcases ran : (channel.backend.mapMemory handle mode offset length).run
    (machinePart.get advised) with ⟨cause | address, machine⟩
  · exact .failed (.unmapped ahead ran)
  · have maps := Maps.mapped ahead ran
    rw [← ahead.counters_eq] at maps
    exact .done maps

theorem mapFile_outcome (channel : Channel state) (file : StreamId) (mode : MapMode)
    (offset length : UInt64) (world : World state) :
    channel.MapOutcome world ((channel.mapFile file mode offset length).run world) := by
  simp only [mapFile, Action.run_bind, Action.run_get, Action.run_ofExcept]
  cases world.streams.handle file with
  | error cause => exact .failed .refused
  | ok handle =>
    have opened : (Except.ok handle : Except SystemError Posix.HandleId).mapError
        (fun _ => Fault.streamClosed) = .ok handle := rfl
    simp only [opened]
    cases on : channel.readsAhead with
    | false => exact mapMemory_outcome mode (.skipped on)
    | true =>
      simp only [if_true]
      rw [Action.run_bind, onMachine, Action.run_within, Action.run_mapFailure]
      rcases ran : (channel.backend.readAhead handle offset length).run
        (machinePart.get world) with ⟨cause | ⟨⟩, machine⟩
      · exact .failed (.unadvised ran)
      · exact mapMemory_outcome mode (.advised on ran)

theorem map_outcome (channel : Channel state) (stream : Option StreamId) (protection : Int32)
    (position length : Int64) (world : World state) :
    channel.MapOutcome world ((channel.map stream protection position length).run world) := by
  simp only [map, Action.run_bind, Action.run_get, Action.run_liftM]
  rcases openStream world.streams stream with fault | source
  · exact .failed .refused
  dsimp only
  split
  case h_2 => exact .failed .refused
  split
  case h_2 => exact .failed .refused
  split
  · exact .failed .refused
  · exact mapFile_outcome ..

/-- The counter goes down also if the backend fails. -/
theorem run_unmap (channel : Channel state) (region : MappedRegion) (world : World state) :
    (channel.unmap region).run world =
      let (outcome, machine) :=
        (channel.backend.unmapMemory region.address region.length).run (machinePart.get world)
      (outcome.mapError unmapFault,
        { machinePart.set machine world with
          counters := world.counters.remove channel.pressure region.length }) := by
  rfl

end Channel

/-- A mapping as a bridge is asked for it. -/
structure MapCall where
  channel : ObjectId
  protection : Int32
  position : Int64
  length : Int64
  deriving DecidableEq

inductive RegionCall where
  | map (channel : ObjectId) (protection : Int32) (position length : Int64)
  | unmap (address length : UInt64)
  | nativeMap (arguments : List Value)
  | nativeUnmap (arguments : List Value)
  deriving DecidableEq

namespace RegionCall

open Session

variable {state : Type}

/-- Makes the call. The answer is the address of a mapping, also where the guest gets it as a
signed number. -/
def perform : RegionCall → Action (Session state) Fault (Option UInt64)
  | map channel protection position length => some <$> Bridge.map channel protection position length
  | unmap address length => (fun _ => none) <$> Bridge.unmap address length
  | nativeMap arguments => (fun answer => answer.long?.map Int64.toUInt64) <$> Native.map arguments
  | nativeUnmap arguments => (fun _ => none) <$> Native.unmap arguments

/-- The mapping that a call asks for, unless its arguments are wrong. -/
def mapCall? : RegionCall → Option MapCall
  | map channel protection position length => some ⟨channel, protection, position, length⟩
  | unmap .. | nativeUnmap _ => none
  | nativeMap arguments =>
    let read : Arguments := ⟨arguments, {}⟩
    match read.object 0 "map0", read.int 1, read.long 2, read.long 3 with
    | .ok channel, .ok protection, .ok position, .ok length =>
      some ⟨channel, protection, position, length⟩
    | _, _, _, _ => none

def target? : RegionCall → Option UInt64
  | map .. | nativeMap _ => none
  | unmap address _ => some address
  | nativeUnmap arguments =>
    match Arguments.long ⟨arguments, {}⟩ 0, Arguments.long ⟨arguments, {}⟩ 1 with
    | .ok address, .ok _ => some address.toUInt64
    | _, _ => none

def mapped? (call : RegionCall) (session : Session state) : Option UInt64 :=
  (call.perform.run session).1.toOption.join

def maps (call : RegionCall) (session : Session state) : Bool := (call.mapped? session).isSome

/-- Whether a call is an unmapping that finds its address. -/
def finds (call : RegionCall) (session : Session state) : Bool :=
  call.target?.any fun address => session.bridge.regions.any fun region =>
    region.address == address

/-- A call whose mapping, if it makes one, is at no address still in the table. -/
def Fresh (call : RegionCall) (session : Session state) : Prop :=
  ∀ address ∈ call.mapped? session, ∀ region ∈ session.bridge.regions, region.address ≠ address

-- Named, so that the address is not looked for among all numbers of 64 bits.
instance (call : RegionCall) (session : Session state) : Decidable (call.Fresh session) :=
  Option.decidableForallMem (call.mapped? session)

/-- All that a call can do to a session. -/
inductive Effect (call : RegionCall) (before : Session state) :
    Except Fault (Option UInt64) × Session state → Prop where
  | failed {fault : Fault} {world : World state} (space : MemberSpace)
      (fails : before.bridge.channel.FailsToMap (memberPart.set space before).world world)
      (missing : ∀ address ∈ call.target?, ∀ region ∈ before.bridge.regions,
        region.address ≠ address) :
      Effect call before (.error fault, { memberPart.set space before with world })
  | filed {space : MemberSpace} {region : MappedRegion} {world : World state}
      (maps : before.bridge.channel.Maps (memberPart.set space before).world region world)
      (mapping : call.target? = none) :
      Effect call before
        (.ok (some region.address),
          { bridge :=
              { (memberPart.set space before).bridge with
                regions := region ::
                  before.bridge.regions.filter fun known => known.address != region.address }
            world })
  | released {address : UInt64} {region : MappedRegion}
      (named : call.target? = some address)
      (found : before.bridge.regions.find? (fun known => known.address == address) = some region) :
      Effect call before
        (((before.bridge.channel.unmap region).run before.world).1.map fun _ => none,
          { bridge :=
              { before.bridge with
                regions := before.bridge.regions.filter fun known => known.address != address }
            world := ((before.bridge.channel.unmap region).run before.world).2 })

theorem memberPart_set_set (first second : MemberSpace) (session : Session state) :
    memberPart.set second (memberPart.set first session) = memberPart.set second session := rfl

theorem channel_memberPart_set (space : MemberSpace) (session : Session state) :
    (memberPart.set space session).bridge.channel = session.bridge.channel := rfl

theorem run_descriptorStream (descriptor : ObjectId) (before : Session state) :
    ∃ outcome space, (Bridge.descriptorStream descriptor).run before =
      (outcome, memberPart.set space before) := by
  simp only [Bridge.descriptorStream, Action.run_bind, onMembers, Action.run_within]
  rcases (MemberSpace.descriptorStream descriptor).run (memberPart.get before) with
    ⟨fault | wrapper?, space⟩
  · exact ⟨.error fault, space, rfl⟩
  · cases wrapper? with
    | none => exact ⟨.ok none, space, rfl⟩
    | some wrapper =>
      simp only [Action.run_bind, Action.run_get]
      split
      case h_1 stream _ => exact ⟨.ok (some stream), space, rfl⟩
      case h_2 => exact ⟨.error _, space, rfl⟩

theorem map_effect (channel : ObjectId) (protection : Int32) (position length : Int64)
    (before : Session state) :
    (map channel protection position length).Effect before
      ((map channel protection position length).perform.run before) := by
  have unnamed : ∀ address ∈ (map channel protection position length).target?,
      ∀ region ∈ before.bridge.regions, region.address ≠ address := by
    intro address named
    cases named
  simp only [perform, Action.run_map, Bridge.map, Action.run_bind, onMembers, Action.run_within]
  rcases (MemberSpace.channelDescriptor channel).run (memberPart.get before) with
    ⟨fault | descriptor?, space⟩
  · exact .failed space .refused unnamed
  cases descriptor? with
  | none => exact .failed space .refused unnamed
  | some descriptor =>
    obtain ⟨outcome, reached, ran⟩ := run_descriptorStream descriptor (memberPart.set space before)
    simp only [Action.run_bind, ran]
    cases outcome with
    | error fault => exact .failed reached .refused unnamed
    | ok stream =>
      have ending := before.bridge.channel.map_outcome stream protection position length
        (memberPart.set reached before).world
      simp only [Action.run_get, onWorld, Action.run_within, memberPart_set_set,
        channel_memberPart_set, worldPart]
      generalize (before.bridge.channel.map stream protection position length).run
        (memberPart.set reached before).world = result at ending ⊢
      cases ending with
      | failed fails => exact .failed reached fails unnamed
      | done maps => exact .filed maps rfl

theorem run_unmap_of_missing {address : UInt64} (length : UInt64) {before : Session state}
    (missing : before.bridge.regions.find? (fun known => known.address == address) = none) :
    (Bridge.unmap address length).run before =
      (.error (.io ("Unmap failed. No mapping at " ++ Bridge.hexadecimal address ++ ".") none),
        before) := by
  simp [Bridge.unmap, Action.run_bind, missing]

theorem unmap_effect (address length : UInt64) (before : Session state) :
    (unmap address length).Effect before ((unmap address length).perform.run before) := by
  simp only [perform, Action.run_map]
  cases found : before.bridge.regions.find? (fun known => known.address == address) with
  | none =>
    rw [run_unmap_of_missing length found]
    refine .failed (memberPart.get before) .refused fun named target region present => ?_
    cases target
    simpa using List.find?_eq_none.1 found region present
  | some region =>
    simp only [Bridge.unmap, Action.run_bind, Action.run_get, found]
    exact .released rfl found

/-- A native mapping is a direct one, unless its arguments are wrong, whatever the session is. -/
theorem run_nativeMap_cases (arguments : List Value) :
    ((nativeMap arguments).mapCall? = none ∧
      ∃ fault, ∀ before : Session state,
        (nativeMap arguments).perform.run before = (.error fault, before)) ∨
    (∃ asked, (nativeMap arguments).mapCall? = some asked ∧ ∀ before : Session state,
      (nativeMap arguments).perform.run before =
        (map asked.channel asked.protection asked.position asked.length).perform.run before) := by
  have sameObject (heap : Heap) : Arguments.object ⟨arguments, heap⟩ 0 "map0" =
      Arguments.object ⟨arguments, {}⟩ 0 "map0" := rfl
  have sameInt (heap : Heap) (index : Nat) : Arguments.int ⟨arguments, heap⟩ index =
      Arguments.int ⟨arguments, {}⟩ index := rfl
  have sameLong (heap : Heap) (index : Nat) : Arguments.long ⟨arguments, heap⟩ index =
      Arguments.long ⟨arguments, {}⟩ index := rfl
  simp only [perform, mapCall?, Action.run_map, Native.map, Native.readArguments, Action.run_bind,
    Action.run_get, Action.run_pure, Action.run_liftM, sameObject, sameInt, sameLong]
  rcases Arguments.object ⟨arguments, {}⟩ 0 "map0" with fault | channel
  · exact .inl ⟨rfl, fault, fun _ => rfl⟩
  rcases Arguments.int ⟨arguments, {}⟩ 1 with fault | protection
  · exact .inl ⟨rfl, fault, fun _ => rfl⟩
  rcases Arguments.long ⟨arguments, {}⟩ 2 with fault | position
  · exact .inl ⟨rfl, fault, fun _ => rfl⟩
  rcases Arguments.long ⟨arguments, {}⟩ 3 with fault | length
  · exact .inl ⟨rfl, fault, fun _ => rfl⟩
  refine .inr ⟨⟨channel, protection, position, length⟩, rfl, fun before => ?_⟩
  dsimp only
  rcases (Bridge.map channel protection position length).run before with
    ⟨fault | address, after⟩
  · rfl
  · simp [Except.map, Value.long?]

theorem run_nativeUnmap_cases (arguments : List Value) :
    ((nativeUnmap arguments).target? = none ∧
      ∃ fault, ∀ before : Session state,
        (nativeUnmap arguments).perform.run before = (.error fault, before)) ∨
    (∃ address length, (nativeUnmap arguments).target? = some address ∧
      ∀ before : Session state, (nativeUnmap arguments).perform.run before =
        (unmap address length).perform.run before) := by
  have sameHeap (heap : Heap) (index : Nat) : Arguments.long ⟨arguments, heap⟩ index =
      Arguments.long ⟨arguments, {}⟩ index := rfl
  simp only [perform, target?, Action.run_map, Native.unmap, Native.readArguments, Action.run_bind,
    Action.run_get, Action.run_pure, Action.run_liftM, sameHeap]
  rcases Arguments.long ⟨arguments, {}⟩ 0 with fault | address
  · exact .inl ⟨rfl, fault, fun _ => rfl⟩
  rcases Arguments.long ⟨arguments, {}⟩ 1 with fault | length
  · exact .inl ⟨rfl, fault, fun _ => rfl⟩
  refine .inr ⟨address.toUInt64, length.toUInt64, rfl, fun before => ?_⟩
  dsimp only
  rcases (Bridge.unmap address.toUInt64 length.toUInt64).run before with ⟨fault | ⟨⟩, after⟩ <;> rfl

theorem Effect.of_target {call other : RegionCall} {before : Session state}
    {result : Except Fault (Option UInt64) × Session state} (effect : call.Effect before result)
    (same : other.target? = call.target?) : other.Effect before result := by
  cases effect with
  | failed space fails missing => exact .failed space fails (same ▸ missing)
  | filed maps mapping => exact .filed maps (same.trans mapping)
  | released named found => exact .released (same.trans named) found

theorem effect_of_refused {call : RegionCall} {before : Session state} {fault : Fault}
    (unnamed : call.target? = none) : call.Effect before (.error fault, before) := by
  refine .failed (memberPart.get before) .refused fun address named => ?_
  simp [unnamed] at named

theorem effect (call : RegionCall) (before : Session state) :
    call.Effect before (call.perform.run before) := by
  cases call with
  | map channel protection position length => exact map_effect ..
  | unmap address length => exact unmap_effect ..
  | nativeMap arguments =>
    rcases run_nativeMap_cases arguments with ⟨-, fault, ran⟩ | ⟨asked, -, ran⟩ <;> rw [ran]
    · exact effect_of_refused rfl
    · exact (map_effect asked.channel asked.protection asked.position asked.length
        before).of_target rfl
  | nativeUnmap arguments =>
    rcases run_nativeUnmap_cases arguments with
      ⟨unnamed, fault, ran⟩ | ⟨address, length, named, ran⟩ <;> rw [ran]
    · exact effect_of_refused unnamed
    · exact (unmap_effect address length before).of_target named

/-- What a call changes in the table and on the counter, if it maps nothing where something is. -/
inductive Turn (call : RegionCall) (before after : Session state) : Prop where
  | kept (unmapped : call.mapped? before = none) (unfound : call.finds before = false)
      (regions : after.bridge.regions = before.bridge.regions)
      (counters : after.world.counters = before.world.counters)
  | filed (region : MappedRegion) (mapped : call.mapped? before = some region.address)
      (unfound : call.finds before = false)
      (regions : after.bridge.regions = region :: before.bridge.regions)
      (counters : after.world.counters =
        before.world.counters.add before.bridge.pressure region.length)
  | released (region : MappedRegion) (unmapped : call.mapped? before = none)
      (found : call.finds before = true) (present : region ∈ before.bridge.regions)
      (regions : after.bridge.regions =
        before.bridge.regions.filter fun known => known.address != region.address)
      (counters : after.world.counters =
        before.world.counters.remove before.bridge.pressure region.length)

theorem finds_eq_false {call : RegionCall} {session : Session state}
    (missing : ∀ address ∈ call.target?, ∀ region ∈ session.bridge.regions,
      region.address ≠ address) : call.finds session = false := by
  unfold finds
  cases named : call.target? with
  | none => rfl
  | some address =>
    rw [Option.any_some, List.any_eq_false]
    intro region present
    simpa using missing address named region present

theorem turn {call : RegionCall} {before : Session state} (fresh : call.Fresh before) :
    call.Turn before (call.perform.run before).2 := by
  have effect := call.effect before
  have mapped : call.mapped? before = (call.perform.run before).1.toOption.join := rfl
  generalize call.perform.run before = result at effect mapped ⊢
  cases effect with
  | failed space fails missing =>
    exact .kept mapped (finds_eq_false missing) rfl fails.counters_eq
  | @filed space region world maps mapping =>
    have unnamed : ∀ address ∈ call.target?, ∀ known ∈ before.bridge.regions,
        known.address ≠ address := by
      intro address named
      simp [mapping] at named
    refine .filed region mapped (finds_eq_false unnamed) ?_ ?_
    · rw [MappedRegion.filter_others (fresh region.address mapped)]
    · cases maps
      rfl
  | @released address region named found =>
    have present : region ∈ before.bridge.regions := List.mem_of_find?_eq_some found
    have same : region.address = address := by simpa using List.find?_some found
    have unmapped : call.mapped? before = none := by
      rw [mapped]
      rcases ((before.bridge.channel.unmap region).run before.world).1 with fault | ⟨⟩ <;> rfl
    have finding : call.finds before = true := by
      rw [finds, named, Option.any_some, List.any_eq_true]
      exact ⟨region, present, by simpa using same⟩
    refine .released region unmapped finding present ?_ ?_
    · rw [same]
    · rw [before.bridge.channel.run_unmap]
      rfl

theorem pressure_perform (call : RegionCall) (before : Session state) :
    (call.perform.run before).2.bridge.pressure = before.bridge.pressure := by
  have effect := call.effect before
  generalize call.perform.run before = result at effect ⊢
  cases effect <;> rfl

theorem run_native_map (channel : ObjectId) (protection : Int32) (position length : Int64)
    (before : Session state) :
    (Native.map [.ref channel, .int protection, .long position, .long length]).run before =
      ((fun address => Value.long address.toInt64) <$>
        Bridge.map channel protection position length).run before := by
  rw [Action.run_map]
  change (Bridge.map channel protection position length >>= fun address =>
    pure (Value.long address.toInt64)).run before = _
  rw [Action.run_bind]
  rcases (Bridge.map channel protection position length).run before with
    ⟨fault | address, after⟩ <;> rfl

theorem run_native_unmap (address : UInt64) (length : Int64) (before : Session state) :
    (Native.unmap [.long address.toInt64, .long length]).run before =
      ((fun _ => Value.int 0) <$> Bridge.unmap address length.toUInt64).run before := by
  rw [Action.run_map]
  change (Bridge.unmap address.toInt64.toUInt64 length.toUInt64 >>= fun _ =>
    pure (Value.int 0)).run before = _
  rw [UInt64.toUInt64_toInt64, Action.run_bind]
  rcases (Bridge.unmap address length.toUInt64).run before with ⟨fault | ⟨⟩, after⟩ <;> rfl

end RegionCall

/-- A bridge on a backend, with one channel made on a file that is open. The channel is the third
object. -/
def Session.onFile {state : Type} (backend : Backend state) (backends : state) : Session state :=
  let making : Action MemberSpace Fault ObjectId := do
    let wrapper ← MemberSpace.onHeap (BaseClass.wrapStream ⟨0⟩)
    let descriptor ← MemberSpace.newDescriptor
    MemberSpace.setDescriptorStream descriptor (some wrapper)
    MemberSpace.newChannel descriptor
  let (types, heap) := (BaseClass.addTo {}).run {}
  let space := (making.run { types := types.toOption.getD {}, heap }).2
  { bridge :=
      { backend, options := {}, pressure := ⟨0⟩, types := space.types, members := space.table }
    world :=
      { heap := space.heap
        streams := { table := #[.file ⟨"data", false, some ⟨0⟩⟩] }
        counters := ⟨#[1000]⟩
        backends } }

end GuestBridge
