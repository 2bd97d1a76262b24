import GuestBridge.Backend.Recorded
import GuestBridge.Backend.Unix
import GuestBridge.Native.GhostTag
import GuestBridge.Proofs.Actions
import GuestBridge.Proofs.MemberReads
import GuestBridge.Proofs.RegionCalls
import Mathlib.Control.Monad.Basic

/-!
Refused native calls. A call that fails and blames the request has only looked: the world is as it
was, no backend was asked, and of the bridge at most some slots of the accessor table have been
resolved. What comes after the looking, the backend's work and the changes of tables, never blames
the request if the backend does not.
-/
namespace GuestBridge

open Posix

namespace Fault

/-- The fault says that the request itself is wrong. -/
def BlamesRequest (fault : Fault) : Prop := fault.kind = .configuration ∨ fault.kind = .classCast

inductive FromBackend : Fault → Prop where
  | io (text : String) (cause : Option SystemError) : FromBackend (.io text cause)
  | outOfMemory (text : String) : FromBackend (.outOfMemory text)
  | platformUnsupported : FromBackend .platformUnsupported

theorem FromBackend.not_blames {fault : Fault} (own : fault.FromBackend) :
    ¬ fault.BlamesRequest := by
  cases own <;> rintro (kind | kind) <;> cases kind

end Fault

namespace Backend

variable {state : Type}

/-- The backend's own failures are its own: none of them blames the request. Mapping, unmapping and
advice fail with system failures, which no caller turns into one that does. -/
structure OwnFaults (backend : Backend state) : Prop where
  granularity : backend.granularity.FailsOnly Fault.FromBackend
  transfer : ∀ source position count target,
    (backend.transfer source position count target).FailsOnly Fault.FromBackend

theorem OwnFaults.recorded {backend : Backend state} (own : backend.OwnFaults) :
    backend.recorded.OwnFaults where
  granularity machine := own.granularity (withoutCalls.get machine)
  transfer source position count target machine :=
    own.transfer source position count target (withoutCalls.get machine)

theorem unix_ownFaults (loader : LibraryLoader state) : (unix loader).OwnFaults where
  granularity := .pure _
  transfer source position count target := by
    have misplaced (outcome : Except SystemError Nat) : Action.FailsOnly Fault.FromBackend
        (Action.ofExcept (outcome.mapError fun cause => .io "Transfer failed." (some cause)) :
          Action (Machine state) Fault Nat) := by
      intro before fault failed
      cases outcome <;> cases failed
      exact .io _ _
    have refused (cause : SystemError) (fault : Fault)
        (failed : transferFailure cause = .error fault) : fault.FromBackend := by
      unfold transferFailure at failed
      repeat' split at failed
      all_goals cases failed
      exact .io _ _
    refine .bind (misplaced _) fun position => ?_
    refine .bind (.attempt _) fun outcome => ?_
    rcases outcome with cause | sent
    · exact .liftM (refused cause)
    · dsimp only
      split <;> exact .pure _

end Backend

namespace Channel

open GuestBridge.Action Fault

variable {state : Type}

theorem openStream_fault {streams : Streams} {stream : Option StreamId} {fault : Fault}
    (failed : openStream streams stream = .error fault) : fault.FromBackend := by
  unfold openStream at failed
  repeat' split at failed
  all_goals cases failed
  all_goals exact .io _ _

theorem streamStatus_fault {cause : SystemError} {text : String} {fault : Fault}
    (failed : streamStatus cause text = .error fault) : fault.FromBackend := by
  unfold streamStatus at failed
  split at failed <;> cases failed
  exact .io _ _

theorem unmapFault_own (cause : SystemError) : (unmapFault cause).FromBackend := by
  unfold unmapFault
  split
  · exact .platformUnsupported
  · exact .io _ _

theorem mapFault_own (cause : SystemError) : (mapFault cause).FromBackend := by
  unfold mapFault
  split
  · exact .outOfMemory _
  · exact .platformUnsupported
  · exact .io _ _

theorem failsOnly_position (stream : Option StreamId) (offset : Int64) :
    (position stream offset : Action (World state) Fault IoStatus).FailsOnly FromBackend := by
  refine .bind .get fun world => .bind (.liftM fun _ => openStream_fault) fun stream => ?_
  split
  · exact .pure _
  refine .bind (.within _ (.attempt _)) fun outcome => ?_
  cases outcome with
  | ok position => exact .pure _
  | error cause => exact .liftM fun _ => streamStatus_fault

theorem failsOnly_seekSource (source : StreamId) (position : UInt64) :
    (seekSource source position : Action (World state) Fault (Option IoStatus)).FailsOnly
      FromBackend := by
  have status (cause : SystemError) : FailsOnly FromBackend (do
      return some (← streamStatus cause transferFailed) :
        Action (World state) Fault (Option IoStatus)) :=
    .bind (.liftM fun _ => streamStatus_fault) fun _ => .pure _
  refine .bind (.within _ (.attempt _)) fun outcome => ?_
  rcases outcome with cause | current
  · exact status cause
  dsimp only
  split
  · exact .pure _
  refine .bind .get fun world => ?_
  split
  · exact .pure _
  refine .bind (.within _ (.attempt _)) fun outcome => ?_
  rcases outcome with cause | reached
  · exact status cause
  · exact .pure _

theorem failsOnly_transfer {channel : Channel state} (own : channel.backend.OwnFaults)
    (source : Option StreamId) (position count : Int64) (destination : Destination) :
    (channel.transfer source position count destination).FailsOnly FromBackend := by
  refine .bind .get fun world => .bind (.liftM fun _ => openStream_fault) fun source => ?_
  dsimp only
  split
  case h_2 => exact .throw (.io _ _)
  split
  · exact .throw (.io _ _)
  split
  · exact .pure _
  split
  case h_2 => exact .pure _
  split
  · exact .liftM fun _ => streamStatus_fault
  have work (handle : HandleId) (target : System.TransferTarget) :
      FailsOnly FromBackend (World.onMachine
        (channel.backend.transfer handle position.toUInt64 count.toUInt64 target)) :=
    .within _ (own.transfer handle _ _ target)
  split
  · refine .bind (failsOnly_seekSource _ _) fun status => ?_
    cases status with
    | none => exact work _ _
    | some status => exact .pure _
  · exact work _ _

theorem failsOnly_mapFile (channel : Channel state) (file : StreamId) (mode : MapMode)
    (offset length : UInt64) :
    (channel.mapFile file mode offset length).FailsOnly FromBackend := by
  have closed (outcome : Except SystemError HandleId) :
      (Action.ofExcept (outcome.mapError fun _ => streamClosed) :
        Action (World state) Fault HandleId).FailsOnly FromBackend := by
    intro before fault failed
    cases outcome <;> cases failed
    exact .io _ _
  have mapped (handle : HandleId) : FailsOnly FromBackend (do
      let address ← World.onMachine
        ((channel.backend.mapMemory handle mode offset length).mapFailure mapFault)
      World.changeCounters (·.add channel.pressure length)
      return ⟨address, length, mode⟩ : Action (World state) Fault MappedRegion) := by
    refine .bind (.within _ (.mapFailure mapFault_own _)) fun address => ?_
    rintro before fault ⟨⟩
  refine .bind .get fun world => .bind (closed _) fun handle => ?_
  dsimp only
  split
  · exact .bind (.within _ (.mapFailure (fun _ => .io _ _) _)) fun _ => mapped handle
  · exact mapped handle

/-- Before the mode is known nothing has been done, and afterwards nothing is blamed on the
request. -/
theorem map_refused {channel : Channel state} {stream : Option StreamId} {protection : Int32}
    {position length : Int64} {world after : World state} {fault : Fault}
    (failed : (channel.map stream protection position length).run world = (.error fault, after))
    (blames : fault.BlamesRequest) : after = world := by
  simp only [map, run_bind, run_get, run_liftM] at failed
  rcases opened : openStream world.streams stream with cause | source <;> rw [opened] at failed
  · cases failed
    rfl
  dsimp only at failed
  split at failed
  case h_2 =>
    cases failed
    rfl
  split at failed
  case h_2 =>
    cases failed
    rfl
  split at failed
  · cases failed
    rfl
  · have own := failsOnly_mapFile channel _ _ _ _ world fault (congrArg Prod.fst failed)
    exact absurd blames own.not_blames

theorem unmap_fault {channel : Channel state} {region : MappedRegion} {world after : World state}
    {fault : Fault} (failed : (channel.unmap region).run world = (.error fault, after)) :
    fault.FromBackend := by
  rw [run_unmap] at failed
  rcases ran : (channel.backend.unmapMemory region.address region.length).run
    (World.machinePart.get world) with ⟨cause | answer, machine⟩ <;> rw [ran] at failed <;>
    cases failed
  exact unmapFault_own cause

end Channel

namespace Session

variable {state value result : Type}

/-- All that the operation can do is resolve members. -/
def Looks (action : Action (Session state) Fault result) : Prop :=
  ∀ before : Session state, before.Resolves (action.run before).2

/-- A failure that blames the request has changed nothing. -/
def Atomic (action : Action (Session state) Fault result) : Prop :=
  ∀ (before : Session state) (fault : Fault) (after : Session state),
    before.bridge.backend.OwnFaults → action.run before = (.error fault, after) →
    fault.BlamesRequest → before.Resolves after

namespace Looks

theorem of_readsOnly {action : Action (Session state) Fault result} (reads : action.ReadsOnly) :
    Looks action := by
  intro before
  rw [reads before]
  exact .refl before

theorem atomic {action : Action (Session state) Fault result} (looks : Looks action) :
    Atomic action := by
  intro before fault after own failed blames
  have resolves := looks before
  rwa [failed] at resolves

theorem bind {first : Action (Session state) Fault value}
    {second : value → Action (Session state) Fault result} (early : Looks first)
    (late : ∀ value, Looks (second value)) : Looks (first >>= second) := by
  intro before
  have resolves := early before
  rw [Action.run_bind]
  rcases ran : first.run before with ⟨fault | value, middle⟩ <;> rw [ran] at resolves
  · exact resolves
  · exact resolves.trans (late value middle)

theorem bind_atomic {first : Action (Session state) Fault value}
    {second : value → Action (Session state) Fault result} (early : Looks first)
    (late : ∀ value, Atomic (second value)) : Atomic (first >>= second) := by
  intro before fault after own failed blames
  have resolves := early before
  rw [Action.run_bind] at failed
  rcases ran : first.run before with ⟨cause | value, middle⟩ <;> rw [ran] at resolves failed
  · cases failed
    exact resolves
  · have sameBackend := resolves.backend_eq
    exact resolves.trans (late value middle fault after (sameBackend ▸ own) failed blames)

theorem descriptorStream (descriptor : ObjectId) :
    Looks (Bridge.descriptorStream descriptor : Action (Session state) Fault _) := by
  intro before
  obtain ⟨after, ran, resolves⟩ := Bridge.run_descriptorStream descriptor before
  rwa [ran]

theorem descriptorSocket (descriptor : ObjectId) :
    Looks (Bridge.descriptorSocket descriptor : Action (Session state) Fault _) := by
  intro before
  obtain ⟨after, ran, resolves⟩ := Bridge.run_descriptorSocket descriptor before
  rwa [ran]

theorem getObject (member : BaseMember) (owner : ObjectId) :
    Looks (onMembers (MemberSpace.getObject member owner) : Action (Session state) Fault _) := by
  intro before
  obtain ⟨after, ran, resolves⟩ := Session.run_getObject member owner before
  rwa [ran]

end Looks

namespace Atomic

/-- What follows a look at the state may use that the backend is the one that was there. -/
theorem get_bind {second : Session state → Action (Session state) Fault result}
    (late : ∀ session, session.bridge.backend.OwnFaults → Atomic (second session)) :
    Atomic (MonadState.get >>= second) :=
  fun before fault after own failed blames => late before own before fault after own failed blames

theorem of_failsOnly {action : Action (Session state) Fault result}
    (fails : action.FailsOnly Fault.FromBackend) : Atomic action := by
  intro before fault after own failed blames
  have fromBackend := fails before fault (congrArg Prod.fst failed)
  exact absurd blames fromBackend.not_blames

theorem bind_pure {action : Action (Session state) Fault value} (atomic : Atomic action)
    (answer : value → result) : Atomic (do return answer (← action)) := by
  intro before fault after own failed blames
  rw [Action.run_bind] at failed
  rcases ran : action.run before with ⟨cause | value, middle⟩ <;> rw [ran] at failed <;>
    cases failed
  exact atomic before fault after own ran blames

end Atomic

end Session

namespace Bridge

open Session Fault

variable {state : Type}

theorem atomic_granularity : Atomic (granularity : Action (Session state) Fault UInt64) :=
  .get_bind fun _ own => .of_failsOnly (.within _ (.within _ own.granularity))

theorem atomic_position (descriptor : ObjectId) (offset : Int64) :
    Atomic (position descriptor offset : Action (Session state) Fault IoStatus) :=
  (Looks.descriptorStream descriptor).bind_atomic fun stream =>
    .of_failsOnly (.within _ (Channel.failsOnly_position stream offset))

theorem atomic_transfer (source : ObjectId) (position count : Int64) (destination : ObjectId) :
    Atomic (transfer source position count destination :
      Action (Session state) Fault IoStatus) := by
  refine (Looks.descriptorStream source).bind_atomic fun sourceStream => ?_
  refine (Looks.descriptorSocket destination).bind_atomic fun socket => ?_
  refine (Looks.descriptorStream destination).bind_atomic fun stream => ?_
  refine .get_bind fun session own => .of_failsOnly (.within _ ?_)
  exact Channel.failsOnly_transfer own sourceStream position count _

theorem atomic_map (channel : ObjectId) (protection : Int32) (position length : Int64) :
    Atomic (map channel protection position length : Action (Session state) Fault UInt64) := by
  refine (Looks.getObject .channelDescriptor channel).bind_atomic fun descriptor => ?_
  cases descriptor with
  | none => exact .of_failsOnly (.throw (.io _ _))
  | some descriptor =>
    refine (Looks.descriptorStream descriptor).bind_atomic fun stream => ?_
    refine .get_bind fun session _ => ?_
    intro before fault after own failed blames
    simp only [Action.run_bind, onWorld, Action.run_within] at failed
    rcases ran : (session.bridge.channel.map stream protection position length).run
      (worldPart.get before) with ⟨cause | region, world⟩ <;> rw [ran] at failed <;>
      cases failed
    have unchanged := Channel.map_refused ran blames
    subst unchanged
    exact .refl before

theorem atomic_unmap (address length : UInt64) :
    Atomic (unmap address length : Action (Session state) Fault Unit) := by
  intro before fault after own failed blames
  cases found : before.bridge.regions.find? fun known => known.address == address with
  | none =>
    rw [RegionCall.run_unmap_of_missing length found] at failed
    cases failed
    exact .refl before
  | some region =>
    simp only [unmap, Action.run_bind, Action.run_get, found, changeRegions, Action.run_modify,
      onWorld, Action.run_within] at failed
    have unmapping : ((before.bridge.channel.unmap region).run before.world).1 = .error fault :=
      congrArg Prod.fst failed
    have own := Channel.unmap_fault (Prod.ext unmapping rfl)
    exact absurd blames own.not_blames

theorem atomic_flush (descriptor : ObjectId) :
    Atomic (flush descriptor : Action (Session state) Fault Bool) := by
  refine (Looks.descriptorStream descriptor).bind_atomic fun stream => ?_
  cases stream with
  | none => exact .of_failsOnly (.throw (.io _ _))
  | some stream =>
    refine .get_bind fun session _ => .of_failsOnly ?_
    split
    · exact .bind .get fun _ => .pure _
    · exact .bind (.within _ (.within _ (.attempt _))) fun _ => .pure _

end Bridge

namespace NativeRegistry

variable {state : Type}

theorem mem_of_mem_registerAll {functions : List (String × NativeFunction state)}
    {registry : NativeRegistry state} {entry : String × NativeFunction state}
    (known : entry ∈ (registry.registerAll functions).functions) :
    entry ∈ registry.functions ∨ entry ∈ functions := by
  induction functions generalizing registry with
  | nil => exact .inl known
  | cons next rest ih =>
    rcases ih known with registered | later
    · rcases List.mem_cons.1 registered with rfl | before
      · exact .inr List.mem_cons_self
      · exact .inl (List.mem_filter.1 before).1
    · exact .inr (List.mem_cons_of_mem _ later)

theorem mem_of_handler? {handlers : List (String × NativeHandler state)} {name : String}
    {handler : NativeHandler state} (known : (ofHandlers handlers).handler? name = some handler) :
    (name, handler) ∈ handlers := by
  obtain ⟨function, found, rfl⟩ := Option.map_eq_some_iff.1 known
  obtain ⟨before, behind, functions, -⟩ := List.lookup_eq_some_iff.1 found
  have registered : (name, function) ∈ (ofHandlers handlers).functions := by
    rw [functions]
    exact List.mem_append_right before List.mem_cons_self
  rcases mem_of_mem_registerAll registered with nowhere | given
  · cases nowhere
  · obtain ⟨⟨ownName, handler⟩, listed, same⟩ := List.mem_map.1 given
    cases same
    exact listed

end NativeRegistry

namespace Native

open Session

variable {state : Type}

theorem looks_arguments {result : Type} (outcome : Except Fault result) :
    Looks (liftM outcome : Action (Session state) Fault result) :=
  .of_readsOnly (.liftM outcome)

/-- Every native function reads its arguments first. -/
theorem atomic_readArguments {result : Type} (values : List Value)
    {body : Arguments → Action (Session state) Fault result}
    (atomic : ∀ arguments, Atomic (body arguments)) :
    Atomic (readArguments values >>= body) :=
  (Looks.of_readsOnly (.bind .get fun _ => .pure _)).bind_atomic atomic

theorem looks_typeArgument (arguments : Arguments) (index : Nat) (function : String) :
    Looks (typeArgument arguments index function : Action (Session state) Fault GuestType) :=
  (looks_arguments _).bind fun _ => .of_readsOnly (.bind .get fun _ => .liftM _)

theorem atomic_initIds (values : List Value) :
    Atomic (initIds values : Action (Session state) _ _) :=
  Bridge.atomic_granularity.bind_pure _

theorem atomic_map (values : List Value) : Atomic (map values : Action (Session state) _ _) := by
  refine atomic_readArguments values fun arguments => ?_
  refine (looks_arguments _).bind_atomic fun channel => ?_
  refine (looks_arguments _).bind_atomic fun protection => ?_
  refine (looks_arguments _).bind_atomic fun position => ?_
  refine (looks_arguments _).bind_atomic fun length => ?_
  exact (Bridge.atomic_map channel protection position length).bind_pure _

theorem atomic_unmap (values : List Value) :
    Atomic (unmap values : Action (Session state) _ _) := by
  refine atomic_readArguments values fun arguments => ?_
  refine (looks_arguments _).bind_atomic fun address => ?_
  refine (looks_arguments _).bind_atomic fun length => ?_
  exact (Bridge.atomic_unmap address.toUInt64 length.toUInt64).bind_pure _

theorem atomic_transfer (values : List Value) :
    Atomic (transfer values : Action (Session state) _ _) := by
  refine atomic_readArguments values fun arguments => ?_
  refine (looks_arguments _).bind_atomic fun source => ?_
  refine (looks_arguments _).bind_atomic fun position => ?_
  refine (looks_arguments _).bind_atomic fun count => ?_
  refine (looks_arguments _).bind_atomic fun destination => ?_
  exact (Bridge.atomic_transfer source position count destination).bind_pure _

theorem atomic_position (values : List Value) :
    Atomic (position values : Action (Session state) _ _) := by
  refine atomic_readArguments values fun arguments => ?_
  refine (looks_arguments _).bind_atomic fun descriptor => ?_
  refine (looks_arguments _).bind_atomic fun offset => ?_
  exact (Bridge.atomic_position descriptor offset).bind_pure _

theorem atomic_flush (values : List Value) :
    Atomic (flush values : Action (Session state) _ _) := by
  refine atomic_readArguments values fun arguments => ?_
  refine (looks_arguments _).bind_atomic fun descriptor => ?_
  exact (Bridge.atomic_flush descriptor).bind_pure _

/-- The tag is set when all arguments have been read, and setting it cannot fail. -/
theorem atomic_setTag (values : List Value) :
    Atomic (setTag values : Action (Session state) _ _) := by
  refine atomic_readArguments values fun arguments => ?_
  refine (looks_arguments _).bind_atomic fun object => ?_
  refine (looks_typeArgument _ _ _).bind_atomic fun type => .of_failsOnly ?_
  rintro before fault ⟨⟩

theorem atomic_getTag (values : List Value) :
    Atomic (getTag values : Action (Session state) _ _) := by
  refine atomic_readArguments values fun arguments => ?_
  refine (looks_arguments _).bind_atomic fun object => .get_bind fun session _ => ?_
  refine .of_failsOnly (.within _ (.within _ ?_))
  rcases (session.world.tags.tag? session.world.heap object).map GuestType.name with - | name
  · exact .pure _
  · rintro before fault ⟨⟩

theorem looks_isGhostArrayInstance (values : List Value) :
    Looks (isGhostArrayInstance values : Action (Session state) _ _) := by
  refine (Looks.of_readsOnly (.bind .get fun _ => .pure _)).bind fun arguments => ?_
  refine (looks_typeArgument _ _ _).bind fun type => ?_
  refine (looks_arguments _).bind fun rank => ?_
  refine (looks_arguments _).bind fun object => .of_readsOnly ?_
  cases object with
  | none => exact .pure _
  | some object => exact .bind .get fun _ => .pure _

theorem looks_castGhostArray (values : List Value) :
    Looks (castGhostArray values : Action (Session state) _ _) := by
  refine (Looks.of_readsOnly (.bind .get fun _ => .pure _)).bind fun arguments => ?_
  refine (looks_typeArgument _ _ _).bind fun type => ?_
  refine (looks_arguments _).bind fun rank => ?_
  refine (looks_arguments _).bind fun object => .of_readsOnly ?_
  exact .bind .get fun _ => .bind (.liftM _) fun _ => .pure _

theorem looks_throwClassCastException (values : List Value) :
    Looks (throwClassCastException values : Action (Session state) _ _) := by
  refine (Looks.of_readsOnly (.bind .get fun _ => .pure _)).bind fun arguments => ?_
  refine (looks_arguments _).bind fun object => ?_
  refine (looks_typeArgument _ _ _).bind fun type => ?_
  refine (looks_arguments _).bind fun rank => .of_readsOnly ?_
  exact .bind .get fun _ => .throw _

theorem atomic_of_standard {name : String} {handler : NativeHandler state}
    (known : standard.handler? name = some handler) (values : List Value) :
    Atomic (handler values) := by
  have listed : (name, handler) ∈ channelFunctions ++ ghostTagFunctions :=
    NativeRegistry.mem_of_handler? known
  simp only [channelFunctions, ghostTagFunctions, List.cons_append, List.nil_append,
    List.mem_cons, List.not_mem_nil, or_false, Prod.mk.injEq] at listed
  rcases listed with ⟨-, rfl⟩ | ⟨-, rfl⟩ | ⟨-, rfl⟩ | ⟨-, rfl⟩ | ⟨-, rfl⟩ | ⟨-, rfl⟩ |
    ⟨-, rfl⟩ | ⟨-, rfl⟩ | ⟨-, rfl⟩ | ⟨-, rfl⟩ | ⟨-, rfl⟩
  · exact atomic_initIds values
  · exact atomic_map values
  · exact atomic_unmap values
  · exact atomic_transfer values
  · exact atomic_position values
  · exact atomic_flush values
  · exact atomic_setTag values
  · exact atomic_getTag values
  · exact (looks_isGhostArrayInstance values).atomic
  · exact (looks_castGhostArray values).atomic
  · exact (looks_throwClassCastException values).atomic

/-- The world is all of it: heap, tags, streams with the system under them, counters, and the
backend's own state with the list of the calls made to it. -/
theorem unchanged_of_refused {backend : Backend state} (own : backend.OwnFaults)
    {session after : Session (Recording state)}
    (watched : session.bridge.backend = backend.recorded) {name : String}
    {handler : NativeHandler (Recording state)} (known : standard.handler? name = some handler)
    {arguments : List Value} {fault : Fault}
    (failed : (handler arguments).run session = (.error fault, after))
    (blames : fault.kind = .configuration ∨ fault.kind = .classCast) :
    after.world.backends.calls = session.world.backends.calls ∧
      after.world = session.world ∧
      after.bridge = { session.bridge with members := after.bridge.members } ∧
      ∀ slot, after.bridge.members.answer session.bridge.types slot =
        session.bridge.members.answer session.bridge.types slot := by
  have ownOfSession : session.bridge.backend.OwnFaults := watched ▸ own.recorded
  have resolves := atomic_of_standard known arguments session fault after ownOfSession failed blames
  have sameWorld := resolves.world_eq
  exact ⟨by rw [sameWorld], sameWorld, resolves.bridge_eq, resolves.members.answer_eq⟩

/-- The channel and its stream are looked up before the protection turns out to be none. -/
theorem unchanged_of_protection_seven :
    let session : Session (Recording Unit) :=
      Session.onFile (Backend.unix .empty).recorded { own := () }
    let ended := (map [.ref ⟨2⟩, .int 7, .long 0, .long 10]).run session
    ended.1 = .error (.invalidMapMode 7) ∧ ended.2.world = session.world := by
  intro session ended
  have refused : ended.1 = .error (.invalidMapMode 7) := by decide +kernel
  have failed : ended = (.error (.invalidMapMode 7), ended.2) := by rw [← refused]
  have known : standard.handler? "sun.nio.ch.FileChannelImpl.map0" =
      some (map : NativeHandler (Recording Unit)) := by rfl
  have unchanged := unchanged_of_refused (Backend.unix_ownFaults .empty) rfl known failed (.inl rfl)
  exact ⟨refused, unchanged.2.1⟩

end Native

end GuestBridge
