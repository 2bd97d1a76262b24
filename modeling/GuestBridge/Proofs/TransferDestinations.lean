import GuestBridge.Proofs.MemberReads
import GuestBridge.Proofs.Transfers

/-!
Transfers between descriptors. What a descriptor holds is taken out of it before the channel applies
its rules, so these rules meet objects of any kind: a socket goes before the stream wherever the
object in the field stands for a socket, and a transfer of nothing leaves the destination alone
except that its stream has to be one.
-/
namespace GuestBridge

open Posix

theorem Destination.Leads.eq_socket {streams : Streams} {destination : Destination}
    {target : System.TransferTarget} {socket : SocketId} (leads : destination.Leads streams target)
    (present : destination.socket = some socket) :
    target = .socket socket ∧ streams.system.isConnected socket = true := by
  cases leads with
  | socket known connected =>
    cases present.symm.trans known
    exact ⟨rfl, connected⟩
  | file socketless => cases present.symm.trans socketless

/-- What is left for a transfer to a socket without a peer. -/
theorem TransferRule.of_unconnected {streams : Streams} {destination : Destination}
    {position count : Int64} {source : Option StreamId} {verdict : TransferVerdict}
    {socket : SocketId} (rule : TransferRule streams destination position count source verdict)
    (present : destination.socket = some socket)
    (unconnected : streams.system.isConnected socket = false) :
    (∃ fault, verdict = .refused fault) ∨ verdict = .answered .unsupportedCase ∨
      count = 0 ∧ verdict = .answered (.ok 0) := by
  cases rule with
  | closed => exact .inl ⟨_, rfl⟩
  | fileless => exact .inl ⟨_, rfl⟩
  | negative => exact .inl ⟨_, rfl⟩
  | nothing _ _ nothing => exact .inr (.inr ⟨nothing, rfl⟩)
  | unconnected => exact .inr (.inl rfl)
  | nowhere => exact .inr (.inl rfl)
  | gone _ _ _ leads =>
    have connected := (leads.eq_socket present).2
    rw [unconnected] at connected
    cases connected
  | sent _ _ _ leads =>
    have connected := (leads.eq_socket present).2
    rw [unconnected] at connected
    cases connected

namespace Channel

variable {state value result : Type}

/-- Whatever the operation does, it changes nothing but streams. -/
def OnStreamsOnly (action : Action (World state) Fault result) : Prop :=
  ∀ world, ∃ streams, (action.run world).2 = { world with streams }

namespace OnStreamsOnly

theorem of_readsOnly {action : Action (World state) Fault result} (reads : action.ReadsOnly) :
    OnStreamsOnly action := fun world => ⟨world.streams, reads world⟩

theorem onStreams (action : Action Streams Fault result) :
    OnStreamsOnly (World.onStreams action : Action (World state) Fault result) :=
  fun world => ⟨(action.run world.streams).2, rfl⟩

theorem bind {first : Action (World state) Fault value}
    {second : value → Action (World state) Fault result} (now : OnStreamsOnly first)
    (later : ∀ found, OnStreamsOnly (second found)) : OnStreamsOnly (first >>= second) := by
  intro world
  obtain ⟨streams, moved⟩ := now world
  rw [Action.run_bind]
  rcases ran : first.run world with ⟨fault | found, middle⟩ <;> rw [ran] at moved <;> subst moved
  · exact ⟨streams, rfl⟩
  · exact later found _

theorem seekSource (source : StreamId) (position : UInt64) :
    OnStreamsOnly (Channel.seekSource source position : Action (World state) Fault _) := by
  have status (cause : SystemError) : OnStreamsOnly (do
      return some (← streamStatus cause transferFailed) :
        Action (World state) Fault (Option IoStatus)) :=
    of_readsOnly (.bind (.liftM _) fun _ => .pure _)
  refine .bind (.onStreams _) fun asked => ?_
  cases asked with
  | error cause => exact status cause
  | ok current =>
    dsimp only
    split
    · exact of_readsOnly (.pure _)
    · refine .bind (of_readsOnly .get) fun world => ?_
      split
      · exact of_readsOnly (.pure _)
      · refine .bind (.onStreams _) fun sought => ?_
        cases sought with
        | error cause => exact status cause
        | ok reached => exact of_readsOnly (.pure _)

end OnStreamsOnly

theorem calls_carryOut {channel : Channel (Recording state)} {backend : Backend state}
    (recorded : channel.backend = backend.recorded) (position count : Int64)
    (verdict : TransferVerdict) (world : World (Recording state)) :
    let ended := ((channel.carryOut position count verdict).run world).2
    ended.backends.calls = world.backends.calls ∨
      ∃ stream handle target, verdict = .sent stream handle target ∧
        ended.backends.calls = world.backends.calls ++
          [.transfer handle position.toUInt64 count.toUInt64 target] := by
  intro ended
  cases verdict with
  | refused fault => exact .inl rfl
  | answered status => exact .inl rfl
  | sent stream handle target =>
    cases seeks : channel.backend.seeksBeforeTransfer with
    | false =>
      refine .inr ⟨stream, handle, target, rfl, ?_⟩
      simp only [ended, run_carryOut_of_direct seeks, recorded]
      rfl
    | true =>
      obtain ⟨streams, moved⟩ := OnStreamsOnly.seekSource stream position.toUInt64 world
      rcases ran : (seekSource stream position.toUInt64).run world with
        ⟨fault | (- | status), after⟩ <;> rw [ran] at moved <;> subst moved
      · refine .inl ?_
        simp [ended, carryOut, seeks, Action.run_bind, ran]
      · refine .inr ⟨stream, handle, target, rfl, ?_⟩
        simp only [ended, run_carryOut_of_sought seeks ran, recorded]
        rfl
      · refine .inl ?_
        simp [ended, carryOut, seeks, Action.run_bind, ran]

end Channel

/-- A bridge with a descriptor of an open file, the second object, and a descriptor whose socket and
stream are the third and the fourth object, the fifth. There are two open files and two sockets, of
which the second has no native handle. -/
def Session.towards (socket stream : Action Heap Fault ObjectId) : Session (Recording Script) :=
  let describe : Action MemberSpace Fault Unit := do
    let wrapper ← MemberSpace.onHeap (BaseClass.wrapStream ⟨0⟩)
    let source ← MemberSpace.newDescriptor
    MemberSpace.setDescriptorStream source (some wrapper)
    let socket ← MemberSpace.onHeap socket
    let stream ← MemberSpace.onHeap stream
    let destination ← MemberSpace.newDescriptor
    MemberSpace.setDescriptorSocket destination (some socket)
    MemberSpace.setDescriptorStream destination (some stream)
  let made := (BaseClass.addTo {}).run {}
  let space := (describe.run { types := made.1.toOption.getD {}, heap := made.2 }).2
  { bridge :=
      { backend := (Backend.scripted { name := "scripted" }).recorded, options := {}
        pressure := ⟨0⟩, types := space.types, members := space.table }
    world :=
      { heap := space.heap
        streams :=
          { table := #[.file ⟨"source", false, some ⟨0⟩⟩, .file ⟨"target", false, some ⟨1⟩⟩]
            system :=
              { handles := #[⟨⟨0⟩, 0, true, false, false⟩, ⟨⟨1⟩, 0, false, true, false⟩]
                sockets := #[{ connected := true }, { connected := false }] } }
        backends := { own := {} } } }

namespace Bridge

open Session

variable {state : Type}

/-- What a transfer is to be written to, by what the members of the descriptor read as. -/
def destinationIn (session : Session state) (descriptor : ObjectId) : Except Fault Destination := do
  let socket ← socketIn session descriptor
  let stream ← streamIn session descriptor
  return { socket, stream }

/-- The source is looked up first, then the destination, and the channel gets what was found. -/
theorem run_transfer (source : ObjectId) (position count : Int64) (destination : ObjectId)
    (session : Session state) :
    ∃ resolved, session.Resolves resolved ∧
      (transfer source position count destination).run session =
        (do
          let stream ← liftM (streamIn session source)
          let target ← liftM (destinationIn session destination)
          onWorld (session.bridge.channel.transfer stream position count target) :
            Action (Session state) Fault IoStatus).run resolved := by
  obtain ⟨first, ranFirst, toFirst⟩ := run_descriptorStream source session
  obtain ⟨second, ranSecond, toSecond⟩ := run_descriptorSocket destination first
  obtain ⟨third, ranThird, toThird⟩ := run_descriptorStream destination second
  -- Each lookup may resolve a member, and those behind it find what they would have found before.
  have bySecond := toFirst.trans toSecond
  have byThird := bySecond.trans toThird
  rw [socketIn_eq toFirst] at ranSecond
  rw [streamIn_eq bySecond] at ranThird
  have channel : third.bridge.channel = session.bridge.channel := by
    rw [byThird.bridge_eq]
    rfl
  simp only [transfer, destinationIn, Action.run_bind, ranFirst]
  cases streamIn session source with
  | error fault => exact ⟨first, toFirst, rfl⟩
  | ok stream =>
    simp only [ranSecond, Action.run_liftM]
    cases socketIn session destination with
    | error fault => exact ⟨second, bySecond, rfl⟩
    | ok socket =>
      simp only [ranThird]
      cases streamIn session destination with
      | error fault => exact ⟨third, byThird, rfl⟩
      | ok target =>
        refine ⟨third, byThird, ?_⟩
        simp only [Action.run_get, channel]
        rfl

theorem run_onWorld_of_rule {session resolved : Session state} {stream : Option StreamId}
    {position count : Int64} {target : Destination} {verdict : TransferVerdict}
    (resolves : session.Resolves resolved)
    (rule : TransferRule session.world.streams target position count stream verdict) :
    (onWorld (session.bridge.channel.transfer stream position count target)).run resolved =
      (onWorld (session.bridge.channel.carryOut position count verdict)).run resolved := by
  rw [← resolves.world_eq] at rule
  have carried : (session.bridge.channel.transfer stream position count target).run
      (worldPart.get resolved) =
      (session.bridge.channel.carryOut position count verdict).run (worldPart.get resolved) :=
    Channel.run_transfer_of_rule rule
  simp only [onWorld, Action.run_within, carried]

/-- How a transfer between descriptors ends: in a lookup that fails, or as the rules decide on what
the lookups find. -/
inductive TransferEnd (session : Session state) (source : ObjectId) (position count : Int64)
    (destination : ObjectId) : Except Fault IoStatus × Session state → Prop where
  | failed {fault : Fault} {after : Session state} (resolves : session.Resolves after) :
      TransferEnd session source position count destination (.error fault, after)
  | decided {resolved : Session state} {stream : Option StreamId} {target : Destination}
      {verdict : TransferVerdict} (resolves : session.Resolves resolved)
      (found : streamIn session source = .ok stream)
      (looked : destinationIn session destination = .ok target)
      (rule : TransferRule session.world.streams target position count stream verdict) :
      TransferEnd session source position count destination
        ((onWorld (session.bridge.channel.carryOut position count verdict)).run resolved)

theorem transfer_end (source : ObjectId) (position count : Int64) (destination : ObjectId)
    (session : Session state) :
    TransferEnd session source position count destination
      ((transfer source position count destination).run session) := by
  obtain ⟨resolved, resolves, ran⟩ := run_transfer source position count destination session
  rw [ran]
  simp only [Action.run_bind, Action.run_liftM]
  cases found : streamIn session source with
  | error fault => exact .failed resolves
  | ok stream =>
    cases looked : destinationIn session destination with
    | error fault => exact .failed resolves
    | ok target =>
      obtain ⟨verdict, rule⟩ :=
        Channel.exists_rule session.world.streams stream position count target
      have ended := run_onWorld_of_rule resolves rule
      simp only [ended]
      exact .decided resolves found looked rule

theorem socket_destinationIn {session : Session state} {destination : ObjectId} {socket : SocketId}
    {target : Destination} (present : socketIn session destination = .ok (some socket))
    (looked : destinationIn session destination = .ok target) : target.socket = some socket := by
  simp only [destinationIn, present, bind, Except.bind] at looked
  cases found : streamIn session destination with
  | error fault => simp [found] at looked
  | ok stream =>
    simp only [found] at looked
    cases looked
    rfl

/-- Where the destination has a socket, a transfer makes at most the one call that writes to this
socket, whatever its stream is. Without a native handle behind the socket nothing happens, and only
a transfer of nothing may succeed. -/
theorem socket_precedes {backend : Backend state} {session : Session (Recording state)}
    (recorded : session.bridge.backend = backend.recorded) {destination : ObjectId}
    {socket : SocketId} (present : socketIn session destination = .ok (some socket))
    (source : ObjectId) (position count : Int64) :
    let ended := (transfer source position count destination).run session
    (ended.2.world.backends.calls = session.world.backends.calls ∨
      ∃ handle, ended.2.world.backends.calls = session.world.backends.calls ++
        [.transfer handle position.toUInt64 count.toUInt64 (.socket socket)]) ∧
    (session.world.streams.system.isConnected socket = false →
      session.Resolves ended.2 ∧
        ((∃ fault, ended.1 = .error fault) ∨ ended.1 = .ok .unsupportedCase ∨
          count = 0 ∧ ended.1 = .ok (.ok 0))) := by
  intro ended
  have ending : TransferEnd session source position count destination ended := transfer_end ..
  generalize ended = result at ending
  cases ending with
  | failed resolves =>
    exact ⟨.inl (by rw [resolves.world_eq]), fun _ => ⟨resolves, .inl ⟨_, rfl⟩⟩⟩
  | decided resolves found looked rule =>
    have held := socket_destinationIn present looked
    refine ⟨?_, fun unconnected => ?_⟩
    · have recorded : session.bridge.channel.backend = backend.recorded := recorded
      rw [← resolves.world_eq]
      rcases Channel.calls_carryOut recorded position count _ _ with none | one
      · exact .inl none
      · obtain ⟨stream, handle, target, rfl, one⟩ := one
        cases rule with
        | sent _ _ _ leads =>
          obtain ⟨rfl, -⟩ := leads.eq_socket held
          exact .inr ⟨handle, one⟩
    · rcases rule.of_unconnected held unconnected with ⟨fault, rfl⟩ | rfl | ⟨nothing, rfl⟩
      · exact ⟨resolves, .inl ⟨fault, rfl⟩⟩
      · exact ⟨resolves, .inr (.inl rfl)⟩
      · exact ⟨resolves, .inr (.inr ⟨nothing, rfl⟩)⟩

theorem socket_precedes_without_handle :
    let session := Session.towards (BaseClass.wrapSocket ⟨1⟩) (BaseClass.wrapStream ⟨1⟩)
    let ended := (transfer ⟨1⟩ 0 3 ⟨4⟩).run session
    session.Resolves ended.2 ∧
      ((∃ fault, ended.1 = .error fault) ∨ ended.1 = .ok .unsupportedCase) := by
  intro session ended
  have present : socketIn session ⟨4⟩ = .ok (some ⟨1⟩) := by decide +kernel
  obtain ⟨resolves, answered⟩ := (socket_precedes rfl present ⟨1⟩ 0 3).2 rfl
  refine ⟨resolves, ?_⟩
  rcases answered with failed | unsupported | ⟨nothing, -⟩
  · exact .inl failed
  · exact .inr unsupported
  · cases nothing

/-- A transfer of nothing succeeds whatever the socket is. And an object that stands for no socket
counts as none, so that the stream beside it is written to. -/
theorem socket_passed_over :
    let unresolved := Session.towards (BaseClass.wrapSocket ⟨1⟩) (BaseClass.wrapStream ⟨1⟩)
    let mistaken := Session.towards (BaseClass.newString "peer") (BaseClass.wrapStream ⟨1⟩)
    (socketIn unresolved ⟨4⟩ = .ok (some ⟨1⟩) ∧
      unresolved.world.streams.system.isConnected ⟨1⟩ = false ∧
      ((transfer ⟨1⟩ 0 0 ⟨4⟩).run unresolved).1 = .ok (.ok 0)) ∧
    (memberPart.get mistaken).objectIn .descriptorSocket ⟨4⟩ = .ok (some ⟨2⟩) ∧
      ((transfer ⟨1⟩ 0 3 ⟨4⟩).run mistaken).2.world.backends.calls =
        [.transfer ⟨0⟩ 0 3 (.file ⟨1⟩)] := by
  decide +kernel

/-- Where the members of a destination can be read, only its stream can be in the way. -/
theorem destinationIn_eq {session : Session state} {destination : ObjectId}
    {socketObject streamObject : Option ObjectId}
    (socketHeld : (memberPart.get session).objectIn .descriptorSocket destination =
      .ok socketObject)
    (streamHeld : (memberPart.get session).objectIn .descriptorStream destination =
      .ok streamObject) :
    destinationIn session destination =
      (wrappedStream session.world.heap streamObject).map fun stream =>
        { socket := socketObject.bind (BaseClass.socketOf? session.world.heap), stream } := by
  simp only [destinationIn, socketIn, streamIn, socketHeld, streamHeld, bind, Except.bind,
    Except.map]
  cases wrappedStream session.world.heap streamObject <;> rfl

/-- A transfer of nothing from an open file asks no backend and changes nothing, and it succeeds if
and only if the object in the destination's stream is one; the socket does not matter. -/
theorem transfer_nothing {session : Session state} {source destination : ObjectId}
    {stream file : StreamId} {socketObject streamObject : Option ObjectId} {position : Int64}
    (found : streamIn session source = .ok (some stream))
    (serves : session.world.streams.Serves stream file)
    (socketHeld : (memberPart.get session).objectIn .descriptorSocket destination =
      .ok socketObject)
    (streamHeld : (memberPart.get session).objectIn .descriptorStream destination =
      .ok streamObject)
    (placed : 0 ≤ position) :
    let ended := (transfer source position 0 destination).run session
    session.Resolves ended.2 ∧
      (ended.1 = .ok (.ok 0) ↔
        ∀ wrapper ∈ streamObject, (BaseClass.streamOf? session.world.heap wrapper).isSome) ∧
      ∀ wrapper ∈ streamObject, BaseClass.streamOf? session.world.heap wrapper = none →
        ended.1 = .error (.wrongValueKind BaseClass.streamName
          (session.world.heap.className wrapper)) := by
  intro ended
  obtain ⟨resolved, resolves, ran⟩ := run_transfer source position 0 destination session
  have nothing (target : Destination) :
      (onWorld (session.bridge.channel.transfer (some stream) position 0 target)).run resolved =
        (.ok (.ok 0), resolved) :=
    run_onWorld_of_rule resolves (.nothing serves placed rfl)
  have answered : ended = ((wrappedStream session.world.heap streamObject).map fun _ =>
      IoStatus.ok 0, resolved) := by
    simp only [ended, ran, found, destinationIn_eq socketHeld streamHeld, Action.run_bind,
      Action.run_liftM]
    cases wrappedStream session.world.heap streamObject with
    | error fault => rfl
    | ok target => exact nothing _
  rw [answered]
  refine ⟨resolves, ?_, ?_⟩
  · cases streamObject with
    | none => simp [wrappedStream, Except.map]
    | some wrapper =>
      cases of : BaseClass.streamOf? session.world.heap wrapper <;>
        simp [wrappedStream, of, Except.map]
  · rintro wrapper ⟨⟩ foreign
    simp [wrappedStream, foreign, Except.map]

theorem transfer_nothing_to_stream :
    let session := Session.towards (BaseClass.wrapSocket ⟨0⟩) (BaseClass.wrapStream ⟨1⟩)
    let ended := (transfer ⟨1⟩ 7 0 ⟨4⟩).run session
    session.Resolves ended.2 ∧ ended.1 = .ok (.ok 0) := by
  intro session ended
  have looked :
      streamIn session ⟨1⟩ = .ok (some ⟨0⟩) ∧
        (memberPart.get session).objectIn .descriptorSocket ⟨4⟩ = .ok (some ⟨2⟩) ∧
        (memberPart.get session).objectIn .descriptorStream ⟨4⟩ = .ok (some ⟨3⟩) ∧
        (BaseClass.streamOf? session.world.heap ⟨3⟩).isSome := by
    decide +kernel
  obtain ⟨found, socketHeld, streamHeld, wraps⟩ := looked
  have serves : session.world.streams.Serves ⟨0⟩ ⟨0⟩ := ⟨rfl, rfl⟩
  have placed : (0 : Int64) ≤ 7 := by decide
  obtain ⟨resolves, answered, -⟩ := transfer_nothing found serves socketHeld streamHeld placed
  refine ⟨resolves, answered.2 ?_⟩
  rintro wrapper ⟨⟩
  exact wraps

/-- The socket is connected, and a string in place of the stream is still in the way. -/
theorem transfer_nothing_to_string :
    let session := Session.towards (BaseClass.wrapSocket ⟨0⟩) (BaseClass.newString "sink")
    ((transfer ⟨1⟩ 7 0 ⟨4⟩).run session).1 =
      .error (.wrongValueKind BaseClass.streamName BaseClass.stringName) := by
  decide +kernel

end Bridge

end GuestBridge
