import GuestBridge.Proofs.MemberReads
import GuestBridge.Proofs.RegionCalls
import GuestBridge.Proofs.Transfers

/-!
How a mapping is decided. The channel object leads to a descriptor and to the stream in it, and the
channel then applies its rules, in order, to this stream, the protection and the range. They refuse
the mapping, or they leave one request for the backend. Nothing in this depends on what the backend
is, or on whether it is told beforehand what will be read.
-/
namespace GuestBridge

open Posix

/-- What the backend is asked for. -/
structure MapRequest where
  handle : HandleId
  mode : MapMode
  offset : UInt64
  length : UInt64
  deriving DecidableEq

/-- The rules that decide a mapping, in order. Each one says what those before it leave over. -/
inductive MapRule (streams : Streams) (protection : Int32) (position length : Int64) :
    Option StreamId → Except Fault MapRequest → Prop where
  | closed {source : Option StreamId}
      (closed : ∀ stream ∈ source, streams.isClosed stream = true) :
      MapRule streams protection position length source (.error .streamClosed)
  | fileless {stream : StreamId} (isOpen : streams.isClosed stream = false)
      (fileless : streams.file? stream = none) :
      MapRule streams protection position length (some stream)
        (.error (.io "Map not supported." none))
  | modeless {stream file : StreamId} (source : streams.Serves stream file)
      (modeless : MapMode.ofCode? protection = none) :
      MapRule streams protection position length (some stream)
        (.error (.invalidMapMode protection))
  | negative {stream file : StreamId} {mode : MapMode} (source : streams.Serves stream file)
      (moded : MapMode.ofCode? protection = some mode) (negative : position < 0 ∨ length < 0) :
      MapRule streams protection position length (some stream)
        (.error (.io "File mapping failed." none))
  | gone {stream file : StreamId} {mode : MapMode} (source : streams.Serves stream file)
      (moded : MapMode.ofCode? protection = some mode) (placed : 0 ≤ position)
      (sized : 0 ≤ length) (gone : ∀ handle, streams.handle file ≠ .ok handle) :
      MapRule streams protection position length (some stream) (.error .streamClosed)
  | asked {stream file : StreamId} {mode : MapMode} {handle : HandleId}
      (source : streams.Serves stream file) (moded : MapMode.ofCode? protection = some mode)
      (placed : 0 ≤ position) (sized : 0 ≤ length) (held : streams.handle file = .ok handle) :
      MapRule streams protection position length (some stream)
        (.ok ⟨handle, mode, position.toUInt64, length.toUInt64⟩)

/-- The rules look at the streams only, and not at the system under them. -/
theorem MapRule.of_table_eq {streams others : Streams} {protection : Int32}
    {position length : Int64} {source : Option StreamId} {verdict : Except Fault MapRequest}
    (same : others.table = streams.table)
    (rule : MapRule streams protection position length source verdict) :
    MapRule others protection position length source verdict := by
  obtain ⟨system, table⟩ := others
  cases same
  cases rule with
  | closed closed => exact .closed closed
  | fileless isOpen fileless => exact .fileless isOpen fileless
  | modeless source modeless => exact .modeless ⟨source.isOpen, source.served⟩ modeless
  | negative source moded negative =>
    exact .negative ⟨source.isOpen, source.served⟩ moded negative
  | gone source moded placed sized gone =>
    exact .gone ⟨source.isOpen, source.served⟩ moded placed sized gone
  | asked source moded placed sized held =>
    exact .asked ⟨source.isOpen, source.served⟩ moded placed sized held

namespace Channel

variable {state : Type} {channel : Channel state} {world : World state} {source : Option StreamId}
  {protection : Int32} {position length : Int64} {verdict : Except Fault MapRequest}

/-- Tells the backend what will be read, if the channel does so at all. -/
def advise (channel : Channel state) (request : MapRequest) : Action (World state) Fault Unit :=
  if channel.readsAhead then
    World.onMachine
      ((channel.backend.readAhead request.handle request.offset request.length).mapFailure
        fun cause => .io mappingFailed (some cause))
  else pure ()

/-- Maps what is asked for and counts it as pressure. -/
def fulfil (channel : Channel state) (request : MapRequest) :
    Action (World state) Fault MappedRegion := do
  let address ← World.onMachine
    ((channel.backend.mapMemory request.handle request.mode request.offset
      request.length).mapFailure mapFault)
  World.changeCounters (·.add channel.pressure request.length)
  return ⟨address, request.length, request.mode⟩

/-- What is left to do of a mapping once its request is known. -/
def serve (channel : Channel state) (request : MapRequest) :
    Action (World state) Fault MappedRegion := do
  channel.advise request
  channel.fulfil request

theorem run_fulfil (channel : Channel state) (request : MapRequest) (world : World state) :
    (channel.fulfil request).run world =
      match (channel.backend.mapMemory request.handle request.mode request.offset
        request.length).run (World.machinePart.get world) with
      | (.error cause, machine) => (.error (mapFault cause), World.machinePart.set machine world)
      | (.ok address, machine) =>
        (.ok ⟨address, request.length, request.mode⟩,
          { World.machinePart.set machine world with
            counters := world.counters.add channel.pressure request.length }) := by
  simp only [fulfil, Action.run_bind, World.onMachine, Action.run_within, Action.run_mapFailure]
  rcases (channel.backend.mapMemory request.handle request.mode request.offset
    request.length).run (World.machinePart.get world) with ⟨cause | address, machine⟩ <;> rfl

theorem run_serve_of_ahead {request : MapRequest} {advised : World state}
    (ahead : channel.Ahead request.handle request.offset request.length world advised) :
    (channel.serve request).run world = (channel.fulfil request).run advised := by
  rw [serve, Action.run_bind, advise]
  cases ahead with
  | skipped off =>
    rw [if_neg (by simp [off])]
    rfl
  | advised on ran =>
    rw [if_pos on, World.onMachine, Action.run_within, Action.run_mapFailure, ran]
    rfl

theorem run_serve_of_unadvised {request : MapRequest} {cause : SystemError}
    {machine : Machine state} (on : channel.readsAhead = true)
    (ran : (channel.backend.readAhead request.handle request.offset request.length).run
      (World.machinePart.get world) = (.error cause, machine)) :
    (channel.serve request).run world =
      (.error (.io "File mapping failed." (some cause)), World.machinePart.set machine world) := by
  rw [serve, Action.run_bind, advise, if_pos on, World.onMachine, Action.run_within,
    Action.run_mapFailure, ran]
  rfl

theorem run_mapFile_of_held {file : StreamId} {handle : HandleId}
    (held : world.streams.handle file = .ok handle) (mode : MapMode) (offset length : UInt64) :
    (channel.mapFile file mode offset length).run world =
      (channel.serve ⟨handle, mode, offset, length⟩).run world := by
  simp only [mapFile, Action.run_bind, Action.run_get, Action.run_ofExcept, held, Except.mapError,
    serve, advise]
  cases channel.readsAhead with
  | false => rfl
  | true => rw [if_pos rfl, if_pos rfl, Action.run_bind]; rfl

theorem run_map_of_rule
    (rule : MapRule world.streams protection position length source verdict) :
    (channel.map source protection position length).run world =
      (liftM verdict >>= channel.serve).run world := by
  cases rule with
  | closed closed => simp [map, Action.run_bind, run_openStream_of_closed closed]
  | fileless isOpen fileless =>
    simp [map, Action.run_bind, run_openStream_of_open isOpen, fileless]
  | modeless source modeless =>
    simp [map, Action.run_bind, run_openStream_of_open source.isOpen, source.served, modeless]
  | negative source moded negative =>
    simp [map, Action.run_bind, run_openStream_of_open source.isOpen, source.served, moded,
      negative, mappingFailed]
  | gone source moded placed sized gone =>
    have inRange : ¬ (position < 0 ∨ length < 0) := not_negative_iff.2 ⟨placed, sized⟩
    simp only [map, Action.run_bind, Action.run_get, Action.run_liftM,
      run_openStream_of_open source.isOpen, source.served, moded, if_neg inRange, mapFile]
    cases found : world.streams.handle _ with
    | ok handle => exact absurd found (gone handle)
    | error cause => rfl
  | asked source moded placed sized held =>
    have inRange : ¬ (position < 0 ∨ length < 0) := not_negative_iff.2 ⟨placed, sized⟩
    simp only [map, Action.run_bind, Action.run_get, Action.run_liftM,
      run_openStream_of_open source.isOpen, source.served, moded, if_neg inRange]
    exact run_mapFile_of_held held ..

/-- The rules leave no mapping undecided. -/
theorem exists_mapRule (streams : Streams) (source : Option StreamId) (protection : Int32)
    (position length : Int64) :
    ∃ verdict, MapRule streams protection position length source verdict := by
  obtain closed | ⟨stream, rfl, isOpen, fileless⟩ | ⟨stream, file, rfl, serves⟩ :=
    streams.source_cases source
  · exact ⟨_, .closed closed⟩
  · exact ⟨_, .fileless isOpen fileless⟩
  · cases moded : MapMode.ofCode? protection with
    | none => exact ⟨_, .modeless serves moded⟩
    | some mode =>
      by_cases negative : position < 0 ∨ length < 0
      · exact ⟨_, .negative serves moded negative⟩
      obtain ⟨placed, sized⟩ := not_negative_iff.1 negative
      cases found : streams.handle file with
      | ok handle => exact ⟨_, .asked serves moded placed sized found⟩
      | error cause => exact ⟨_, .gone serves moded placed sized (by simp [found])⟩

end Channel

namespace MemberSpace

/-- The stream behind a channel object, by what its members read as. -/
def channelStreamIn (space : MemberSpace) (channel : ObjectId) :
    Except Fault (Option StreamId) :=
  (space.objectIn .channelDescriptor channel).bind fun
    | none => .error .streamClosed
    | some descriptor =>
      (space.objectIn .descriptorStream descriptor).bind (Bridge.wrappedStream space.heap)

/-- The stream in a descriptor, as an operation on the members alone. -/
def openDescriptor (descriptor : ObjectId) : Action MemberSpace Fault (Option StreamId) := do
  let wrapper ← descriptorStream descriptor
  liftM (Bridge.wrappedStream (← get).heap wrapper)

/-- The stream behind a channel object, as an operation on the members alone. -/
def openChannel (channel : ObjectId) : Action MemberSpace Fault (Option StreamId) := do
  match ← channelDescriptor channel with
  | none => throw .streamClosed
  | some descriptor => openDescriptor descriptor

theorem run_openChannel (channel : ObjectId) (space : MemberSpace) :
    ∃ after, (openChannel channel).run space = (space.channelStreamIn channel, after) ∧
      space.Resolves after := by
  obtain ⟨first, ranFirst, toFirst⟩ := run_getObject .channelDescriptor channel space
  simp only [openChannel, channelDescriptor, Action.run_bind, ranFirst, channelStreamIn]
  rcases space.objectIn .channelDescriptor channel with fault | (- | descriptor)
  · exact ⟨first, rfl, toFirst⟩
  · exact ⟨first, rfl, toFirst⟩
  · obtain ⟨second, ranSecond, toSecond⟩ := run_getObject .descriptorStream descriptor first
    rw [toFirst.objectIn_eq] at ranSecond
    refine ⟨second, ?_, toFirst.trans toSecond⟩
    simp only [openDescriptor, descriptorStream, Action.run_bind, ranSecond, Except.bind]
    cases space.objectIn .descriptorStream descriptor with
    | error fault => rfl
    | ok wrapper =>
      simp only [Action.run_get, Action.run_liftM, (toFirst.trans toSecond).heap_eq]

end MemberSpace

namespace Session

variable {state : Type}

/-- The session once the stream behind the channel object has been looked for. -/
def located (session : Session state) (channel : ObjectId) : Session state :=
  memberPart.set ((MemberSpace.openChannel channel).run (memberPart.get session)).2 session

theorem resolves_located (session : Session state) (channel : ObjectId) :
    session.Resolves (session.located channel) := by
  obtain ⟨after, ran, resolves⟩ :=
    MemberSpace.run_openChannel channel (memberPart.get session)
  rw [located, ran]
  exact resolves_memberPart resolves

/-- Files a region that was mapped. -/
def filed (session : Session state) :
    Except Fault MappedRegion × World state → Except Fault UInt64 × Session state
  | (.ok region, world) =>
    (.ok region.address,
      { bridge :=
          { session.bridge with
            regions := region ::
              session.bridge.regions.filter fun known => known.address != region.address }
        world })
  | (.error fault, world) => (.error fault, { session with world })

/-- How a mapping is decided on a session: by a lookup that fails, or by the rules for what the
lookup finds. -/
inductive Decides (session : Session state) (call : MapCall) : Except Fault MapRequest → Prop where
  | unfound {fault : Fault}
      (unfound : (memberPart.get session).channelStreamIn call.channel = .error fault) :
      Decides session call (.error fault)
  | found {stream : Option StreamId} {verdict : Except Fault MapRequest}
      (found : (memberPart.get session).channelStreamIn call.channel = .ok stream)
      (rule : MapRule session.world.streams call.protection call.position call.length stream
        verdict) :
      Decides session call verdict

theorem Decides.of_same {session others : Session state} {call : MapCall}
    {verdict : Except Fault MapRequest} (members : memberPart.get others = memberPart.get session)
    (streams : others.world.streams.table = session.world.streams.table)
    (decides : session.Decides call verdict) : others.Decides call verdict := by
  cases decides with
  | unfound unfound => exact .unfound (members ▸ unfound)
  | found found rule => exact .found (members ▸ found) (rule.of_table_eq streams)

theorem exists_decides (session : Session state) (call : MapCall) :
    ∃ verdict, session.Decides call verdict := by
  cases found : (memberPart.get session).channelStreamIn call.channel with
  | error fault => exact ⟨_, .unfound found⟩
  | ok stream =>
    obtain ⟨verdict, rule⟩ := Channel.exists_mapRule session.world.streams stream call.protection
      call.position call.length
    exact ⟨verdict, .found found rule⟩

end Session

namespace Bridge

open Session

variable {state : Type} {session : Session state} {call : MapCall}

theorem run_descriptorStream_onMembers (descriptor : ObjectId) (session : Session state) :
    (descriptorStream descriptor).run session =
      (onMembers (MemberSpace.openDescriptor descriptor)).run session := by
  simp only [descriptorStream, MemberSpace.openDescriptor, onMembers, Action.run_bind,
    Action.run_within]
  rcases (MemberSpace.descriptorStream descriptor).run (memberPart.get session) with
    ⟨fault | (- | wrapper), space⟩
  · rfl
  · rfl
  · have sameHeap : (memberPart.set space session).world.heap = space.heap := rfl
    simp only [Action.run_bind, Action.run_get, Action.run_liftM, wrappedStream, sameHeap]
    cases BaseClass.streamOf? space.heap wrapper <;> rfl

theorem run_openChannel (channel : ObjectId) (session : Session state) :
    (onMembers (MemberSpace.openChannel channel)).run session =
      ((memberPart.get session).channelStreamIn channel, session.located channel) := by
  obtain ⟨after, ran, -⟩ := MemberSpace.run_openChannel channel (memberPart.get session)
  rw [located, onMembers, Action.run_within, ran]

theorem run_map (channel : ObjectId) (protection : Int32) (position length : Int64)
    (session : Session state) :
    (map channel protection position length).run session =
      match (memberPart.get session).channelStreamIn channel with
      | .error fault => (.error fault, session.located channel)
      | .ok stream =>
        (session.located channel).filed
          ((session.bridge.channel.map stream protection position length).run session.world) := by
  have opened : (map channel protection position length).run session =
      (do
        let stream ← onMembers (MemberSpace.openChannel channel)
        let channel := (← get).bridge.channel
        let region ← onWorld (channel.map stream protection position length)
        changeRegions fun regions =>
          region :: regions.filter fun known => known.address != region.address
        return region.address : Action (Session state) Fault UInt64).run session := by
    simp only [map, Action.run_bind, MemberSpace.openChannel, onMembers, Action.run_within]
    rcases (MemberSpace.channelDescriptor channel).run (memberPart.get session) with
      ⟨fault | (- | descriptor), space⟩
    · rfl
    · rfl
    · simp only [Action.run_bind, run_descriptorStream_onMembers, onMembers, Action.run_within]
      rfl
  rw [opened, Action.run_bind, run_openChannel]
  cases (memberPart.get session).channelStreamIn channel with
  | error fault => rfl
  | ok stream =>
    have world : (session.located channel).world = session.world :=
      (session.resolves_located channel).world_eq
    have sameChannel : (session.located channel).bridge.channel = session.bridge.channel := rfl
    simp only [Action.run_bind, Action.run_get, onWorld, Action.run_within, sameChannel, worldPart,
      world]
    rcases (session.bridge.channel.map stream protection position length).run session.world with
      ⟨fault | region, after⟩ <;> rfl

/-- A mapping that is decided against changes nothing but what the lookup resolves; one that is
decided for is left to the channel. -/
theorem run_map_of_decides {verdict : Except Fault MapRequest}
    (decides : session.Decides call verdict) :
    (map call.channel call.protection call.position call.length).run session =
      match verdict with
      | .error fault => (.error fault, session.located call.channel)
      | .ok request =>
        (session.located call.channel).filed
          ((session.bridge.channel.serve request).run session.world) := by
  rw [run_map]
  cases decides with
  | unfound unfound => rw [unfound]
  | found found rule =>
    rw [found]
    dsimp only
    rw [Channel.run_map_of_rule rule, Action.run_bind, Action.run_liftM]
    cases verdict with
    | ok request => rfl
    | error fault =>
      have world : (session.located call.channel).world = session.world :=
        (session.resolves_located call.channel).world_eq
      dsimp only [filed]
      rw [← world]

end Bridge

namespace RegionCall

open Session

variable {state : Type} {call : RegionCall}

theorem run_perform_of_mapCall {asked : MapCall} (mapping : call.mapCall? = some asked)
    (session : Session state) :
    call.perform.run session =
      (some <$> Bridge.map asked.channel asked.protection asked.position asked.length).run
        session := by
  cases call with
  | map channel protection position length =>
    cases mapping
    rfl
  | unmap address length => cases mapping
  | nativeUnmap arguments => cases mapping
  | nativeMap arguments =>
    rcases run_nativeMap_cases arguments with ⟨unread, -⟩ | ⟨found, read, ran⟩
    · rw [unread] at mapping
      cases mapping
    · cases read.symm.trans mapping
      exact ran session

/-- A call that maps, and whose mapping is decided for: this is what it asks the backend for. -/
inductive Requests (call : RegionCall) (session : Session state) (request : MapRequest) : Prop where
  | intro {asked : MapCall} (mapping : call.mapCall? = some asked)
      (decides : session.Decides asked (.ok request))

theorem run_perform_of_refused {session : Session state} {asked : MapCall} {fault : Fault}
    (mapping : call.mapCall? = some asked) (decides : session.Decides asked (.error fault)) :
    call.perform.run session = (.error fault, session.located asked.channel) := by
  rw [run_perform_of_mapCall mapping, Action.run_map, Bridge.run_map_of_decides decides]
  rfl

theorem run_perform_of_asked {session : Session state} {asked : MapCall} {request : MapRequest}
    (mapping : call.mapCall? = some asked) (decides : session.Decides asked (.ok request)) :
    call.perform.run session =
      let ended := (session.located asked.channel).filed
        ((session.bridge.channel.serve request).run session.world)
      (ended.1.map some, ended.2) := by
  rw [run_perform_of_mapCall mapping, Action.run_map, Bridge.run_map_of_decides decides]

theorem requests_onFile (backend : Backend state) (backends : state) :
    (map ⟨2⟩ 0 0 77).Requests (Session.onFile backend backends) ⟨⟨0⟩, .readOnly, 0, 77⟩ := by
  have found : (memberPart.get (Session.onFile backend backends)).channelStreamIn ⟨2⟩ =
      .ok (some ⟨0⟩) := by
    change (memberPart.get (Session.onFile (Backend.scripted { name := "scripted" })
      {})).channelStreamIn ⟨2⟩ = _
    decide +kernel
  have rule : MapRule (Session.onFile backend backends).world.streams 0 0 77 (some ⟨0⟩)
      (.ok ⟨⟨0⟩, .readOnly, 0, 77⟩) :=
    .asked ⟨rfl, rfl⟩ rfl (by decide) (by decide) rfl
  exact .intro rfl (.found found rule)

end RegionCall

end GuestBridge
