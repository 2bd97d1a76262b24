import GuestBridge.Proofs.HandleCursors
import GuestBridge.Proofs.MappingRules
import GuestBridge.Proofs.RefusedCalls
import GuestBridge.Proofs.StreamHistories
import GuestBridge.Proofs.TransferDestinations
import Mathlib.Data.List.Induction

/-!
Where streams stand. Positions are asked for and set through descriptors, between transfers,
mappings and flushes. Descriptors of one stream share its position, and streams on one file have
each their own. Of all these requests only a seek through a descriptor of the stream itself moves
it.
-/
namespace GuestBridge

open Posix

inductive ChannelRequest where
  | position (descriptor : ObjectId) (offset : Int64)
  | transfer (source : ObjectId) (position count : Int64) (destination : ObjectId)
  | map (call : MapCall)
  | unmap (address length : UInt64)
  | flush (descriptor : ObjectId)

namespace Session

variable {state : Type}

def respond (session : Session state) : ChannelRequest → Session state
  | .position descriptor offset => ((Bridge.position descriptor offset).run session).2
  | .transfer source position count destination =>
    ((Bridge.transfer source position count destination).run session).2
  | .map call =>
    ((Bridge.map call.channel call.protection call.position call.length).run session).2
  | .unmap address length => ((Bridge.unmap address length).run session).2
  | .flush descriptor => ((Bridge.flush descriptor).run session).2

def after (start : Session state) (history : List ChannelRequest) : Session state :=
  history.foldl respond start

/-- The offset to which a request sends a stream. -/
def sought? (start : Session state) (stream : StreamId) : ChannelRequest → Option Int64
  | .position descriptor offset =>
    if Bridge.streamIn start descriptor = .ok (some stream) ∧ 0 ≤ offset then some offset
    else none
  | .transfer .. | .map _ | .unmap .. | .flush _ => none

/-- Where a history leaves a stream, if it stood at the cursor before. -/
def place (start : Session state) (stream : StreamId) (cursor : Nat)
    (history : List ChannelRequest) : Nat :=
  match (history.filterMap (start.sought? stream)).getLast? with
  | some offset => offset.toUInt64.toNat
  | none => cursor

theorem place_append (start : Session state) (stream : StreamId) (cursor : Nat)
    (early : List ChannelRequest) (request : ChannelRequest) :
    start.place stream cursor (early ++ [request]) =
      start.place stream (start.place stream cursor early) [request] := by
  simp only [place, List.filterMap_append, List.getLast?_append]
  cases sought : start.sought? stream request <;> simp [sought]

end Session

/-- A request that is no transfer to the file of this handle. -/
def ChannelRequest.Spares {state : Type} (start : Session state) (handle : HandleId) :
    ChannelRequest → Prop
  | .transfer _ _ _ destination => ∀ target, Bridge.destinationIn start destination = .ok target →
    ¬ target.Leads start.world.streams (.file handle)
  | .position .. | .map _ | .unmap .. | .flush _ => True

/-- A cursor can be moved to any place that there is a position for. -/
def Posix.Kernel.SeeksAnywhere (kernel : Kernel) : Prop :=
  ∀ target < positionLimit, kernel.seeks target = .ok ()

theorem Posix.System.reaches_of_nonneg {system : System} (anywhere : system.kernel.SeeksAnywhere)
    {offset : Int64} (seeks : 0 ≤ offset) : system.Reaches offset.toUInt64.toNat := by
  have same : offset.toUInt64.toNat = offset.toInt.toNat := Int64.toNat_toUInt64_of_le seeks
  have small : offset.toInt < 2 ^ 63 := offset.toInt_lt
  have below : offset.toUInt64.toNat < 2 ^ 63 := by omega
  exact ⟨below, anywhere _ below⟩

namespace Streams

open GuestBridge.Action

variable {failure result : Type} {first streams others : Streams} {stream : StreamId}
  {handle : HandleId} {opened : OpenFile}

theorem stream_of_table (same : others.table = streams.table) (stream : StreamId) :
    others.stream stream = streams.stream stream := by
  rw [Streams.stream, same, Streams.stream]

theorem handle_of_table (same : others.table = streams.table) (stream : StreamId) :
    others.handle stream = streams.handle stream := by
  rw [Streams.handle, stream_of_table same, Streams.handle]

/-- The same streams, over a system that has this open file under the handle. -/
structure Rests (first : Streams) (handle : HandleId) (opened : OpenFile) (streams : Streams) :
    Prop where
  table_eq : streams.table = first.table
  stands : streams.system.Stands first.system.kernel handle opened

theorem rests_onSystem {action : Action System failure result}
    (keeps : action.Keeps (System.Stands first.system.kernel handle opened)) :
    (onSystem action).Keeps (first.Rests handle opened) :=
  fun streams rests => ⟨rests.table_eq, keeps streams.system rests.stands⟩

/-- A seek moves the open file only if the stream holds its handle. -/
theorem rests_seek (apart : first.handle stream ≠ .ok handle) (target : UInt64) :
    (seek stream target).Keeps (first.Rests handle opened) := by
  refine .get_bind fun streams rests => ?_
  split
  case h_1 =>
    refine Keeps.get_bind (fun streams rests => ?_) streams rests
    refine Keeps.liftM_bind (fun other held => ?_) streams rests
    have apart : other ≠ handle := by
      rintro rfl
      exact apart ((handle_of_table rests.table_eq stream).symm.trans held)
    exact .bind (rests_onSystem (System.keeps_seek apart _)) fun _ => .of_readsOnly (.pure _)
  case h_2 => exact rests
  case h_3 => exact rests

end Streams

/-- Whether a destination leads to a file is seen from the streams, and not from the system. -/
theorem Destination.Leads.of_table {destination : Destination} {streams others : Streams}
    {handle : HandleId} (leads : destination.Leads others (.file handle))
    (same : others.table = streams.table) : destination.Leads streams (.file handle) := by
  cases leads with
  | file socketless present served held =>
    rw [Streams.file?, Streams.stream_of_table same] at served
    rw [Streams.handle_of_table same] at held
    exact .file socketless present served held

namespace World

variable {state failure result : Type}

/-- The same objects and streams, over a system that has this open file under the handle. -/
structure Rests (first : World state) (handle : HandleId) (opened : OpenFile)
    (world : World state) : Prop where
  heap_eq : world.heap = first.heap
  streams : first.streams.Rests handle opened world.streams

variable {first : World state} {handle : HandleId} {opened : OpenFile}

theorem rests_onStreams {action : Action Streams failure result}
    (keeps : action.Keeps (first.streams.Rests handle opened)) :
    (onStreams action).Keeps (first.Rests handle opened) :=
  fun world rests => ⟨rests.heap_eq, keeps world.streams rests.streams⟩

theorem rests_onMachine {action : Action (Machine state) failure result}
    (keeps : action.Keeps (Machine.Stands first.streams.system.kernel handle opened)) :
    (onMachine action).Keeps (first.Rests handle opened) :=
  fun world rests =>
    ⟨rests.heap_eq, rests.streams.table_eq, keeps (machinePart.get world) rests.streams.stands⟩

theorem rests_changeCounters (change : Counters → Counters) :
    (changeCounters change : Action (World state) failure Unit).Keeps (first.Rests handle opened) :=
  .modify fun _ rests => ⟨rests.heap_eq, rests.streams⟩

end World

namespace Channel

open World GuestBridge.Action

variable {state : Type} {channel : Channel state} {first : World state} {handle : HandleId}
  {opened : OpenFile}

theorem rests_mapFile (leaves : channel.backend.LeavesHandles) (file : StreamId) (mode : MapMode)
    (offset length : UInt64) :
    (channel.mapFile file mode offset length).Keeps (first.Rests handle opened) := by
  have advising (asked : HandleId) :
      (onMachine ((channel.backend.readAhead asked offset length).mapFailure fun cause =>
        Fault.io mappingFailed (some cause))).Keeps (first.Rests handle opened) :=
    rests_onMachine (.mapFailure _ (leaves.readAhead asked offset length _ handle opened))
  have mapping (asked : HandleId) :
      (onMachine ((channel.backend.mapMemory asked mode offset length).mapFailure mapFault)).Keeps
        (first.Rests handle opened) :=
    rests_onMachine (.mapFailure _ (leaves.mapMemory asked mode offset length _ handle opened))
  refine .bind (.of_readsOnly .get) fun _ => .bind (.of_readsOnly fun _ => rfl) fun asked => ?_
  have rest : (do
      let address ← onMachine
        ((channel.backend.mapMemory asked mode offset length).mapFailure mapFault)
      changeCounters (·.add channel.pressure length)
      return (⟨address, length, mode⟩ : MappedRegion)).Keeps (first.Rests handle opened) :=
    .bind (mapping asked) fun _ => .bind (rests_changeCounters _) fun _ => .of_readsOnly (.pure _)
  split
  · exact .bind (advising asked) fun _ => rest
  · exact rest

theorem rests_map (leaves : channel.backend.LeavesHandles) (stream : Option StreamId)
    (protection : Int32) (position length : Int64) :
    (channel.map stream protection position length).Keeps (first.Rests handle opened) := by
  refine .bind (.of_readsOnly .get) fun _ => .bind (.of_readsOnly (.liftM _)) fun _ => ?_
  split
  · split
    · exact .check fun _ => rests_mapFile leaves _ _ _ _
    · exact .of_readsOnly (.throw _)
  · exact .of_readsOnly (.throw _)

theorem rests_unmap (leaves : channel.backend.LeavesHandles) (region : MappedRegion) :
    (channel.unmap region).Keeps (first.Rests handle opened) :=
  .bind
    (rests_onMachine (.attempt
      (leaves.unmapMemory region.address region.length _ handle opened)))
    fun _ => .bind (rests_changeCounters _) fun _ => .of_readsOnly fun _ => rfl

theorem some_of_openStream {streams : Streams} {source : Option StreamId} {stream : StreamId}
    (found : openStream streams source = .ok stream) :
    source = some stream ∧ streams.isClosed stream = false := by
  cases source with
  | none => cases found
  | some named =>
    rw [openStream] at found
    split at found
    case isTrue => cases found
    case isFalse isOpen =>
      cases found
      exact ⟨rfl, by simpa using isOpen⟩

/-- A position is asked for or set without moving an open file, unless it is set on a stream that
holds the file's handle. -/
theorem rests_position {source : Option StreamId} {offset : Int64}
    (apart : ∀ stream ∈ source, 0 ≤ offset → first.streams.handle stream ≠ .ok handle) :
    (position source offset).Keeps (first.Rests handle opened) := by
  refine .get_bind fun world rests => Keeps.liftM_bind (fun stream found => ?_) world rests
  have named : source = some stream := (some_of_openStream found).1
  have asking : (if 0 ≤ offset then Streams.seek stream offset.toUInt64
      else Streams.position stream).Keeps (first.streams.Rests handle opened) := by
    split
    · exact Streams.rests_seek (apart stream named ‹_›) _
    · exact .of_readsOnly (Streams.readsOnly_position stream)
  split
  · exact .of_readsOnly (.pure _)
  · refine .bind (World.rests_onStreams (.attempt asking)) fun outcome => ?_
    split
    · exact .of_readsOnly (.pure _)
    · exact .of_readsOnly (.liftM _)

theorem run_position_of_closed {world : World state} {source : Option StreamId}
    (closed : ∀ stream ∈ source, world.streams.isClosed stream = true) (offset : Int64) :
    (position source offset).run world = (.error .streamClosed, world) := by
  simp [position, Action.run_bind, run_openStream_of_closed closed]

theorem run_position_of_pipe {world : World state} {stream : StreamId} {pipe : Pipe}
    (known : world.streams.stream stream = .pipe pipe) (isOpen : pipe.closed = false)
    (offset : Int64) : (position (some stream) offset).run world = (.ok .unsupported, world) := by
  have isOpen : world.streams.isClosed stream = false := by
    rw [Streams.isClosed, known, Stream.isClosed, isOpen]
  have fixed : world.streams.canSeek stream = false := by
    rw [Streams.canSeek, known, Stream.canSeek]
  by_cases seeks : 0 ≤ offset
  · simp [position, Action.run_bind, run_openStream_of_open isOpen, fixed, seeks]
  · have asked : (Streams.position stream).run world.streams =
        (.error (.described .unsupported "pipe has no position"), world.streams) := by
      simp [Streams.position, Action.run_bind, known]
    simp [position, Action.run_bind, run_openStream_of_open isOpen, seeks, World.onStreams,
      Action.run_within, Action.run_attempt, World.streamsPart, asked, streamStatus,
      SystemError.condition]

section File

variable {world : World state} {stream : StreamId}

theorem run_position_of_query (held : world.streams.handle stream = .ok handle)
    (has : world.streams.system.Has handle opened) {offset : Int64} (query : offset < 0) :
    (position (some stream) offset).run world = (.ok (.ok (.ofNat opened.cursor)), world) := by
  obtain ⟨file, known, holding, isOpen, -⟩ := Streams.file_of_handle held
  have asked := Streams.run_position_of_file known holding has
  simp [position, Action.run_bind, run_openStream_of_open isOpen, Int64.not_le.2 query,
    World.onStreams, Action.run_within, Action.run_attempt, World.streamsPart, asked]

theorem run_position_of_seek (held : world.streams.handle stream = .ok handle)
    (has : world.streams.system.Has handle opened)
    (anywhere : world.streams.system.kernel.SeeksAnywhere) {offset : Int64} (seek : 0 ≤ offset) :
    (position (some stream) offset).run world = (.ok (.ok offset.toUInt64),
      { world with
        streams :=
          { world.streams with
            system := world.streams.system.setCursor handle offset.toUInt64.toNat } }) := by
  obtain ⟨file, known, holding, isOpen, canSeek⟩ := Streams.file_of_handle held
  have asked := Streams.run_seek_of_file known holding has (System.reaches_of_nonneg anywhere seek)
  simp [position, Action.run_bind, run_openStream_of_open isOpen, seek, canSeek,
    World.onStreams, Action.run_within, Action.run_attempt, World.streamsPart, asked]

end File

end Channel

namespace Session

open GuestBridge.Action

variable {state failure result : Type}

/-- The same bridge on the same objects and streams, apart from members that were resolved and
regions that were mapped or given back, over a system that has this open file under the handle. -/
structure Rests (start : Session state) (handle : HandleId) (opened : OpenFile)
    (now : Session state) : Prop where
  backend_eq : now.bridge.backend = start.bridge.backend
  members : (memberPart.get start).Resolves (memberPart.get now)
  world : start.world.Rests handle opened now.world

variable {start now later : Session state} {handle : HandleId} {opened : OpenFile}

theorem rests_refl (has : start.world.streams.system.Has handle opened) :
    start.Rests handle opened start :=
  ⟨rfl, .refl _, rfl, rfl, has, rfl⟩

theorem Rests.resolve (rests : start.Rests handle opened now) (resolves : now.Resolves later) :
    start.Rests handle opened later where
  backend_eq := resolves.backend_eq.trans rests.backend_eq
  members := rests.members.trans resolves.memberPart
  world := resolves.world_eq ▸ rests.world

theorem Rests.leaves (rests : start.Rests handle opened now)
    (leaves : start.bridge.backend.LeavesHandles) :
    now.bridge.channel.backend.LeavesHandles := by
  rwa [← rests.backend_eq] at leaves

theorem Rests.streamIn_eq (rests : start.Rests handle opened now) (descriptor : ObjectId) :
    Bridge.streamIn now descriptor = Bridge.streamIn start descriptor := by
  simp only [Bridge.streamIn, rests.members.objectIn_eq, rests.world.heap_eq]

theorem Rests.destinationIn_eq (rests : start.Rests handle opened now) (descriptor : ObjectId) :
    Bridge.destinationIn now descriptor = Bridge.destinationIn start descriptor := by
  simp only [Bridge.destinationIn, rests.streamIn_eq, Bridge.socketIn, rests.members.objectIn_eq,
    rests.world.heap_eq]

theorem Rests.moved (rests : start.Rests handle opened now) (cursor : Nat) :
    start.Rests handle { opened with cursor }
      { now with
        world :=
          { now.world with
            streams :=
              { now.world.streams with
                system := now.world.streams.system.setCursor handle cursor } } } :=
  ⟨rests.backend_eq, rests.members, rests.world.heap_eq, rests.world.streams.table_eq,
    rests.world.streams.stands.setCursor_same cursor⟩

theorem Rests.handle_eq (rests : start.Rests handle opened now) (stream : StreamId) :
    now.world.streams.handle stream = start.world.streams.handle stream :=
  Streams.handle_of_table rests.world.streams.table_eq stream

theorem rests_of_looks {action : Action (Session state) Fault result} (looks : Looks action) :
    action.Keeps (start.Rests handle opened) :=
  fun now rests => rests.resolve (looks now)

theorem rests_onWorld {action : Action (World state) Fault result}
    (keeps : action.Keeps (start.world.Rests handle opened)) :
    (onWorld action).Keeps (start.Rests handle opened) := by
  intro now rests
  have world := keeps now.world rests.world
  have heap : (action.run now.world).2.heap = now.world.heap :=
    world.heap_eq.trans rests.world.heap_eq.symm
  have same : memberPart.get ((onWorld action).run now).2 = memberPart.get now :=
    congrArg (MemberSpace.mk now.bridge.members now.bridge.types) heap
  exact ⟨rests.backend_eq, same ▸ rests.members, world⟩

theorem rests_changeRegions (change : List MappedRegion → List MappedRegion) :
    (changeRegions change : Action (Session state) Fault Unit).Keeps (start.Rests handle opened) :=
  .modify fun _ rests => ⟨rests.backend_eq, rests.members, rests.world⟩

end Session

namespace Bridge

open Session GuestBridge.Action

variable {state : Type} {start now : Session state} {handle : HandleId} {opened : OpenFile}

theorem rests_map (leaves : start.bridge.backend.LeavesHandles) (channel : ObjectId)
    (protection : Int32) (position length : Int64) :
    (map channel protection position length).Keeps (start.Rests handle opened) := by
  refine .bind (rests_of_looks (.getObject .channelDescriptor channel)) fun descriptor => ?_
  cases descriptor with
  | none => exact .of_readsOnly (.throw _)
  | some descriptor =>
    refine .bind (rests_of_looks (.descriptorStream descriptor)) fun stream => ?_
    refine .get_bind fun now rests => ?_
    have leaves := rests.leaves leaves
    have filing : (do
        let region ← onWorld (now.bridge.channel.map stream protection position length)
        changeRegions fun regions =>
          region :: regions.filter fun known => known.address != region.address
        return region.address : Action (Session state) Fault UInt64).Keeps
          (start.Rests handle opened) :=
      .bind (rests_onWorld (Channel.rests_map leaves stream protection position length))
        fun _ => .bind (rests_changeRegions _) fun _ => .of_readsOnly (.pure _)
    exact filing now rests

theorem rests_unmap (leaves : start.bridge.backend.LeavesHandles) (address length : UInt64) :
    (unmap address length).Keeps (start.Rests handle opened) := by
  refine .get_bind fun now rests => ?_
  have leaves := rests.leaves leaves
  dsimp only
  split
  · rename_i region _
    have releasing : (do
        changeRegions fun regions => regions.filter fun known => known.address != address
        onWorld (now.bridge.channel.unmap region) : Action (Session state) Fault Unit).Keeps
          (start.Rests handle opened) :=
      .bind (rests_changeRegions _) fun _ => rests_onWorld (Channel.rests_unmap leaves region)
    exact releasing now rests
  · exact rests

theorem looks_flush (descriptor : ObjectId) :
    Looks (flush descriptor : Action (Session state) Fault Bool) := by
  refine (Looks.descriptorStream descriptor).bind fun stream => ?_
  cases stream with
  | none => exact .of_readsOnly (.throw _)
  | some stream =>
    refine .of_readsOnly (.bind .get fun session => ?_)
    split
    · exact .bind .get fun _ => .pure _
    · refine .bind (.within (fun _ => rfl) (.within (fun _ => rfl) (.attempt ?_))) fun _ => .pure _
      exact Streams.readsOnly_flush stream

theorem rests_transfer (leaves : start.bridge.backend.LeavesHandles)
    (direct : start.bridge.backend.seeksBeforeTransfer = false) {destination : ObjectId}
    (spared : ∀ target, destinationIn start destination = .ok target →
      ¬ target.Leads start.world.streams (.file handle))
    (source : ObjectId) (position count : Int64) :
    (transfer source position count destination).Keeps (start.Rests handle opened) := by
  intro now rests
  have ending := transfer_end source position count destination now
  generalize (transfer source position count destination).run now = result at ending
  cases ending with
  | failed resolves => exact rests.resolve resolves
  | @decided resolved stream target verdict resolves found looked rule =>
    refine rests_onWorld ?_ resolved (rests.resolve resolves)
    cases rule with
    | closed | fileless | negative => exact .of_readsOnly (.throw _)
    | nothing | unconnected | nowhere | gone => exact .of_readsOnly (.pure _)
    | @sent stream file asked goal source placed positive leads held =>
      have apart : goal ≠ .file handle := by
        rintro rfl
        exact spared target (rests.destinationIn_eq destination ▸ looked)
          (leads.of_table rests.world.streams.table_eq)
      have direct : now.bridge.channel.backend.seeksBeforeTransfer = false :=
        (congrArg Backend.seeksBeforeTransfer rests.backend_eq).trans direct
      intro world unmoved
      rw [Channel.run_carryOut_of_direct direct]
      have transferring := (rests.leaves leaves).transfer asked position.toUInt64 count.toUInt64
        goal start.world.streams.system.kernel handle opened apart
      exact World.rests_onMachine transferring world unmoved

theorem run_position (descriptor : ObjectId) (offset : Int64) (now : Session state) :
    ∃ resolved, now.Resolves resolved ∧
      (position descriptor offset).run now =
        (do onWorld (Channel.position (← liftM (streamIn now descriptor)) offset) :
          Action (Session state) Fault IoStatus).run resolved := by
  obtain ⟨resolved, ran, resolves⟩ := run_descriptorStream descriptor now
  refine ⟨resolved, resolves, ?_⟩
  simp only [position, Action.run_bind, ran, Action.run_liftM]

theorem run_position_of_unmoved {descriptor : ObjectId} {source : Option StreamId}
    {offset : Int64} {answer : Except Fault IoStatus}
    (found : streamIn now descriptor = .ok source)
    (unmoved : (Channel.position source offset).run now.world = (answer, now.world)) :
    ∃ later, (position descriptor offset).run now = (answer, later) ∧ now.Resolves later := by
  obtain ⟨resolved, resolves, ran⟩ := run_position descriptor offset now
  refine ⟨resolved, ?_, resolves⟩
  rw [← resolves.world_eq] at unmoved
  simp only [ran, found, Action.run_bind, Action.run_liftM, onWorld, Action.run_within, worldPart,
    unmoved]

theorem rests_position {descriptor : ObjectId} {offset : Int64}
    (apart : ∀ stream, streamIn start descriptor = .ok (some stream) → 0 ≤ offset →
      start.world.streams.handle stream ≠ .ok handle) :
    (position descriptor offset).Keeps (start.Rests handle opened) := by
  intro now rests
  obtain ⟨resolved, resolves, ran⟩ := run_position descriptor offset now
  rw [ran, rests.streamIn_eq]
  refine Keeps.liftM_bind (fun source found => ?_) resolved (rests.resolve resolves)
  refine rests_onWorld (Channel.rests_position fun stream named => ?_)
  exact apart stream (found.trans (congrArg _ named))

/-- A seek through a descriptor of the stream. -/
theorem run_position_of_sought {stream : StreamId} {descriptor : ObjectId} {offset : Int64}
    (rests : start.Rests handle opened now)
    (held : start.world.streams.handle stream = .ok handle)
    (found : streamIn start descriptor = .ok (some stream))
    (anywhere : start.world.streams.system.kernel.SeeksAnywhere) (seeks : 0 ≤ offset) :
    ∃ later, (position descriptor offset).run now = (.ok (.ok offset.toUInt64), later) ∧
      start.Rests handle { opened with cursor := offset.toUInt64.toNat } later := by
  obtain ⟨resolved, resolves, ran⟩ := run_position descriptor offset now
  have reached := rests.resolve resolves
  have stands := reached.world.streams.stands
  have sought := Channel.run_position_of_seek ((reached.handle_eq stream).trans held) stands.has
    (stands.kernel_eq ▸ anywhere) seeks
  refine ⟨_, ?_, reached.moved offset.toUInt64.toNat⟩
  simp only [ran, rests.streamIn_eq, found, Action.run_bind, Action.run_liftM, onWorld,
    Action.run_within, worldPart, sought]

end Bridge

namespace Session

open GuestBridge.Action

variable {state : Type} {start now : Session state} {stream : StreamId} {handle : HandleId}
  {opened : OpenFile}

/-- One request leaves the stream where it was, unless it is a seek of the stream itself. -/
theorem Rests.respond (rests : start.Rests handle opened now)
    (leaves : start.bridge.backend.LeavesHandles)
    (direct : start.bridge.backend.seeksBeforeTransfer = false)
    (anywhere : start.world.streams.system.kernel.SeeksAnywhere)
    (held : start.world.streams.handle stream = .ok handle)
    (own : ∀ other, start.world.streams.handle other = .ok handle → other = stream)
    {request : ChannelRequest} (spares : request.Spares start handle) :
    start.Rests handle
      { opened with cursor := start.place stream opened.cursor [request] }
      (now.respond request) := by
  cases request with
  | position descriptor offset =>
    by_cases sought : Bridge.streamIn start descriptor = .ok (some stream) ∧ 0 ≤ offset
    · have there : start.place stream opened.cursor [.position descriptor offset] =
          offset.toUInt64.toNat := by
        simp [place, sought?, sought]
      obtain ⟨found, seeks⟩ := sought
      obtain ⟨later, ran, moved⟩ :=
        Bridge.run_position_of_sought rests held found anywhere seeks
      rw [there, Session.respond, ran]
      exact moved
    · have there : start.place stream opened.cursor [.position descriptor offset] =
          opened.cursor := by
        simp [place, sought?, sought]
      rw [there]
      refine Bridge.rests_position (fun other found seeks same => ?_) now rests
      exact sought ⟨own other same ▸ found, seeks⟩
  | transfer source position count destination =>
    exact Bridge.rests_transfer leaves direct spares source position count now rests
  | map call => exact Bridge.rests_map leaves _ _ _ _ now rests
  | unmap address length => exact Bridge.rests_unmap leaves address length now rests
  | flush descriptor => exact rests_of_looks (Bridge.looks_flush descriptor) now rests

theorem rests_after (leaves : start.bridge.backend.LeavesHandles)
    (direct : start.bridge.backend.seeksBeforeTransfer = false)
    (anywhere : start.world.streams.system.kernel.SeeksAnywhere)
    (held : start.world.streams.handle stream = .ok handle)
    (own : ∀ other, start.world.streams.handle other = .ok handle → other = stream)
    (has : start.world.streams.system.Has handle opened) {history : List ChannelRequest}
    (spared : ∀ request ∈ history, request.Spares start handle) :
    start.Rests handle { opened with cursor := start.place stream opened.cursor history }
      (start.after history) := by
  induction history using List.reverseRecOn with
  | nil => exact rests_refl has
  | append_singleton early request ih =>
    have rests := ih fun known member => spared known (List.mem_append_left _ member)
    have next := rests.respond leaves direct anywhere held own (spared request (by simp))
    rw [place_append, after, List.foldl_append]
    exact next

/-- In every run of positions, transfers, mappings and flushes, on a backend that leaves handles
alone and does not want a seek before a transfer, a stream with an open file stands where it was
last sent, by whichever of its descriptors, and without that where it stood at the start: at zero if
it was just opened. Neither what is asked of other streams, on the same file too, nor what else is
asked of this one counts, as long as nothing is transferred to it. Pipes have no position and closed
streams refuse; there nothing changes. -/
theorem position_follows_seeks {start : Session state}
    (leaves : start.bridge.backend.LeavesHandles)
    (direct : start.bridge.backend.seeksBeforeTransfer = false)
    (anywhere : start.world.streams.system.kernel.SeeksAnywhere)
    (own : start.world.streams.OwnHandles) (history : List ChannelRequest) :
    let now := start.after history
    (∀ (stream : StreamId) (handle : HandleId) (opened : OpenFile),
      start.world.streams.handle stream = .ok handle →
      start.world.streams.system.Has handle opened →
      (∀ request ∈ history, request.Spares start handle) →
      ∀ descriptor, Bridge.streamIn now descriptor = .ok (some stream) → ∀ offset : Int64,
        (0 ≤ offset →
          ((Bridge.position descriptor offset).run now).1 = .ok (.ok offset.toUInt64)) ∧
        (offset < 0 → ∃ later,
          (Bridge.position descriptor offset).run now =
            (.ok (.ok (.ofNat (start.place stream opened.cursor history))), later) ∧
          now.Resolves later)) ∧
    (∀ (descriptor : ObjectId) (stream : StreamId) (pipe : Pipe) (offset : Int64),
      Bridge.streamIn now descriptor = .ok (some stream) →
      now.world.streams.stream stream = .pipe pipe → pipe.closed = false →
      ∃ later, (Bridge.position descriptor offset).run now = (.ok .unsupported, later) ∧
        now.Resolves later) ∧
    ∀ (descriptor : ObjectId) (source : Option StreamId) (offset : Int64),
      Bridge.streamIn now descriptor = .ok source →
      (∀ stream ∈ source, now.world.streams.isClosed stream = true) →
      ∃ later, (Bridge.position descriptor offset).run now = (.error .streamClosed, later) ∧
        now.Resolves later := by
  intro now
  refine ⟨?_, ?_, ?_⟩
  · intro stream handle opened held has spared descriptor found offset
    have owned (other : StreamId) (same : start.world.streams.handle other = .ok handle) :
        other = stream := own.own stream other handle held same
    have rests := rests_after leaves direct anywhere held owned has spared
    constructor
    · intro seeks
      obtain ⟨later, ran, -⟩ := Bridge.run_position_of_sought rests held
        (rests.streamIn_eq descriptor ▸ found) anywhere seeks
      rw [ran]
    · intro query
      exact Bridge.run_position_of_unmoved found (Channel.run_position_of_query
        ((rests.handle_eq stream).trans held) rests.world.streams.stands.has query)
  · intro descriptor stream pipe offset found known isOpen
    exact Bridge.run_position_of_unmoved found (Channel.run_position_of_pipe known isOpen offset)
  · intro descriptor source offset found closed
    exact Bridge.run_position_of_unmoved found (Channel.run_position_of_closed closed offset)

/-- One file that nobody has opened yet. -/
def unopened : Streams where
  system := { files := #[{ content := .ofList [1, 2, 3] }], tree := .single }

/-- Two streams on the file, and a pipe. -/
def shared : Streams where
  system :=
    { unopened.system with
      handles := #[⟨⟨0⟩, 0, true, true, false⟩, ⟨⟨0⟩, 0, true, true, false⟩] }
  table := #[.file ⟨"a", false, some ⟨0⟩⟩, .file ⟨"a", false, some ⟨1⟩⟩, .pipe {}]

def sharing : List StreamRequest :=
  [.openFile "a" .openExisting .readWrite, .openFile "a" .openExisting .readWrite, .add (.pipe {})]

theorem after_sharing : unopened.after sharing = shared := rfl

theorem ownHandles_shared : shared.OwnHandles := by
  rw [← after_sharing]
  refine Streams.ownHandles_after (Streams.ownHandles_of_empty rfl) sharing fun request member => ?_
  simp only [sharing, List.mem_cons, List.not_mem_nil, or_false] at member
  obtain rfl | rfl | rfl := member
  · trivial
  · trivial
  · exact nofun

/-- A bridge on the system's own backend. The first two descriptors, the second and the fourth
object, share a stream; the third, the sixth object, has another one on the same file; and the
fourth, the eighth object, has a pipe. The last object is a channel of the first descriptor. -/
def onShared : Session Unit :=
  let describe (stream : StreamId) : Action MemberSpace Fault ObjectId := do
    let wrapper ← MemberSpace.onHeap (BaseClass.wrapStream stream)
    let descriptor ← MemberSpace.newDescriptor
    MemberSpace.setDescriptorStream descriptor (some wrapper)
    return descriptor
  let making : Action MemberSpace Fault ObjectId := do
    let first ← describe ⟨0⟩
    let _ ← describe ⟨0⟩
    let _ ← describe ⟨1⟩
    let _ ← describe ⟨2⟩
    MemberSpace.newChannel first
  let (types, heap) := (BaseClass.addTo {}).run {}
  let space := (making.run { types := types.toOption.getD {}, heap }).2
  { bridge :=
      { backend := .unix .empty, options := {}, pressure := ⟨0⟩, types := space.types
        members := space.table }
    world := { heap := space.heap, streams := shared, backends := () } }

/-- A stream is sent to one place and another stream on its file to another one; it is transferred
from, to the other one, and a pipe is asked in between. A second descriptor tells the first
place. -/
theorem position_follows_seeks_shared :
    let history : List ChannelRequest :=
      [.position ⟨1⟩ 7, .position ⟨5⟩ 9, .transfer ⟨1⟩ 0 3 ⟨5⟩, .position ⟨7⟩ 4, .flush ⟨3⟩]
    let now := onShared.after history
    onShared.world.streams.OwnHandles ∧ (∀ request ∈ history, request.Spares onShared ⟨0⟩) ∧
      Bridge.streamIn now ⟨3⟩ = .ok (some ⟨0⟩) ∧
      ∃ later, (Bridge.position ⟨3⟩ (-1)).run now = (.ok (.ok 7), later) ∧ now.Resolves later := by
  intro history now
  have anywhere : onShared.world.streams.system.kernel.SeeksAnywhere := fun _ _ => rfl
  have held : onShared.world.streams.handle ⟨0⟩ = .ok ⟨0⟩ := rfl
  have has : onShared.world.streams.system.Has ⟨0⟩ ⟨⟨0⟩, 0, true, true, false⟩ := rfl
  have transferred : (Bridge.destinationIn onShared ⟨5⟩).toOption.bind
      (Channel.target? onShared.world.streams) = some (.file ⟨1⟩) := by
    decide +kernel
  have spared : ∀ request ∈ history, request.Spares onShared ⟨0⟩ := by
    simp only [history, List.forall_mem_cons, ChannelRequest.Spares, true_and, and_true,
      List.not_mem_nil, false_implies, implies_true]
    intro target looked leads
    rw [looked] at transferred
    cases (Channel.target?_eq_some_iff.2 leads).symm.trans transferred
  have own (other : StreamId) (same : onShared.world.streams.handle other = .ok ⟨0⟩) :
      other = ⟨0⟩ := ownHandles_shared.own ⟨0⟩ other ⟨0⟩ held same
  have rests := rests_after (Backend.leavesHandles_unix .empty) rfl anywhere held own has spared
  have found : Bridge.streamIn now ⟨3⟩ = .ok (some ⟨0⟩) :=
    (rests.streamIn_eq ⟨3⟩).trans (by decide +kernel)
  have told := ((position_follows_seeks (Backend.leavesHandles_unix .empty) rfl anywhere
    ownHandles_shared history).1 ⟨0⟩ ⟨0⟩ _ held has spared ⟨3⟩ found (-1)).2 (by decide)
  have place : onShared.place ⟨0⟩ 0 history = 7 := by decide +kernel
  rw [place] at told
  exact ⟨ownHandles_shared, spared, found, told⟩

end Session

end GuestBridge
