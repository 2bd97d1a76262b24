import GuestBridge.Backend.Recorded
import GuestBridge.Backend.Scripted
import GuestBridge.Channel
import GuestBridge.Proofs.Actions
import GuestBridge.Proofs.FileWrites
import Mathlib.Control.Monad.Basic

/-!
How a transfer on a channel is decided. The rules go from the source over the amount to the
destination, and the first one that applies decides: with a fault, with a status, or by asking the
backend, once. Only a backend that transfers from the cursor has it moved before.
-/
namespace GuestBridge

open Posix

namespace Posix.System

theorem readsOnly_lookHandle (handle : HandleId) : Action.ReadsOnly (lookHandle handle) := by
  refine .bind .get fun system => ?_
  split
  · exact .pure _
  · exact .throw _

theorem readsOnly_position (handle : HandleId) : (position handle).ReadsOnly :=
  .bind (readsOnly_lookHandle handle) fun _ => .pure _

/-- A cursor can be moved to the place. -/
structure Reaches (system : System) (target : Nat) : Prop where
  below : target < positionLimit
  granted : system.kernel.seeks target = .ok ()

theorem run_seek {system : System} {handle : HandleId} {opened : OpenFile} {target : Nat}
    (here : system.handles[handle.index]? = some opened) (reaches : system.Reaches target) :
    (seek handle target).run system = (.ok target, system.setCursor handle target) := by
  simp [seek, Action.run_bind, run_lookHandle here, Nat.not_le.2 reaches.below, reaches.granted,
    Except.map]

theorem reaches_of_seek {system after : System} {handle : HandleId} {target reached : Nat}
    (ran : (seek handle target).run system = (.ok reached, after)) :
    (∃ opened, system.handles[handle.index]? = some opened) ∧ system.Reaches target := by
  cases here : system.handles[handle.index]? with
  | none => simp [seek, lookHandle, Action.run_bind, here] at ran
  | some opened =>
    refine ⟨⟨opened, rfl⟩, ?_⟩
    rw [seek, Action.run_bind, run_lookHandle here] at ran
    dsimp only at ran
    split at ran
    case isTrue => cases ran
    case isFalse below =>
      refine ⟨Nat.not_le.1 below, ?_⟩
      rw [Action.run_bind, Action.run_get] at ran
      dsimp only at ran
      rw [Action.run_bind, Action.run_liftM] at ran
      cases granted : system.kernel.seeks target with
      | ok => rfl
      | error cause =>
        rw [granted] at ran
        cases ran

end Posix.System

namespace Streams

/-- Asking the stream where it is and moving it to a position succeed. -/
structure Seekable (streams : Streams) (stream : StreamId) (position : UInt64) : Prop where
  canSeek : streams.canSeek stream = true
  queried : ((Streams.position stream).run streams).1.isOk = true
  sought : ((seek stream position).run streams).1.isOk = true

/-- Streams in which one is at a position: it was there, or it was told to go there. -/
inductive Placed (streams : Streams) (stream : StreamId) (position : UInt64) : Streams → Prop where
  | there (found : ((Streams.position stream).run streams).1 = .ok position) :
      Placed streams stream position streams
  | moved {reached : UInt64} {after : Streams}
      (ran : (seek stream position).run streams = (.ok reached, after)) :
      Placed streams stream position after

variable {streams after : Streams} {stream : StreamId} {file : FileStream} {handle : HandleId}
  {opened : OpenFile} {position : UInt64}

theorem handle_of_file (known : streams.stream stream = .file file)
    (held : file.handle = some handle) : streams.handle stream = .ok handle := by
  rcases file with ⟨path, appends, handle?⟩
  cases held
  rw [Streams.handle, known]

theorem handle_error {cause : SystemError} (gone : streams.handle stream = .error cause) :
    cause = Stream.closedFault := by
  unfold Streams.handle at gone
  split at gone <;> cases gone
  rfl

theorem readsOnly_position (stream : StreamId) : (Streams.position stream).ReadsOnly := by
  refine .bind .get fun streams => ?_
  split
  case h_1 =>
    refine .bind .get fun _ => .bind (.liftM _) fun handle => .bind ?_ fun _ => .pure _
    exact .within (fun _ => rfl) (System.readsOnly_position handle)
  case h_2 => exact .throw _
  case h_3 => exact .liftM _

theorem run_position_of_file (known : streams.stream stream = .file file)
    (held : file.handle = some handle)
    (here : streams.system.handles[handle.index]? = some opened) :
    (Streams.position stream).run streams = (.ok (.ofNat opened.cursor), streams) := by
  simp [Streams.position, Action.run_bind, known, handle_of_file known held, onSystem,
    Action.run_within, System.position, System.run_lookHandle here, Except.map]

/-- An open file is moved by its handle's cursor. -/
theorem run_seek_of_file (known : streams.stream stream = .file file)
    (held : file.handle = some handle) (here : streams.system.handles[handle.index]? = some opened)
    (reaches : streams.system.Reaches position.toNat) :
    (seek stream position).run streams = (.ok position,
      { streams with system := streams.system.setCursor handle position.toNat }) := by
  simp [seek, Action.run_bind, known, handle_of_file known held, onSystem, Action.run_within,
    System.run_seek here reaches, Except.map]

theorem seekable_of_file (known : streams.stream stream = .file file)
    (held : file.handle = some handle) (here : streams.system.handles[handle.index]? = some opened)
    (reaches : streams.system.Reaches position.toNat) : streams.Seekable stream position where
  canSeek := by rw [Streams.canSeek, known, Stream.canSeek, held]; rfl
  queried := by rw [run_position_of_file known held here]; rfl
  sought := by rw [run_seek_of_file known held here reaches]; rfl

/-- A file is only sought while it is open, and only where the system lets a cursor go. -/
theorem opened_of_seek (known : streams.stream stream = .file file) {reached : UInt64}
    (ran : (seek stream position).run streams = (.ok reached, after)) :
    ∃ handle opened, file.handle = some handle ∧
      streams.system.handles[handle.index]? = some opened ∧
      streams.system.Reaches position.toNat := by
  obtain ⟨path, appends, _ | handle⟩ := file
  · have refused : streams.handle stream = .error Stream.closedFault := by
      rw [Streams.handle, known]
    simp [seek, Action.run_bind, known, refused] at ran
  have held := handle_of_file known rfl
  simp only [seek, Action.run_bind, Action.run_get, known, held, Action.run_liftM, onSystem,
    Action.run_within] at ran
  rcases sought : (System.seek handle position.toNat).run streams.system with ⟨cause | there, later⟩
  · rw [sought] at ran
    cases ran
  · obtain ⟨⟨opened, here⟩, reaches⟩ := System.reaches_of_seek sought
    exact ⟨handle, opened, rfl, here, reaches⟩

theorem position_of_seek (known : streams.stream stream = .file file) {reached : UInt64}
    (ran : (seek stream position).run streams = (.ok reached, after)) :
    ((Streams.position stream).run after).1 = .ok position := by
  obtain ⟨handle, opened, held, here, reaches⟩ := opened_of_seek known ran
  rw [run_seek_of_file known held here reaches] at ran
  obtain ⟨-, rfl⟩ := Prod.mk.inj ran
  let sought : Streams :=
    { streams with system := streams.system.setCursor handle position.toNat }
  have moved : sought.system.handles[handle.index]? =
      some { opened with cursor := position.toNat } := by
    simp [sought, System.setCursor, Array.getElem?_modify, here]
  have answered : (Streams.position stream).run sought = _ := run_position_of_file known held moved
  rw [answered, UInt64.ofNat_toNat]

theorem Placed.position_eq (placed : streams.Placed stream position after)
    (known : streams.stream stream = .file file) :
    ((Streams.position stream).run after).1 = .ok position := by
  cases placed with
  | there found => exact found
  | moved ran => exact position_of_seek known ran

end Streams

/-- The handle that a destination is written through: the one of its socket, or without a socket the
one of the open file behind its stream. -/
inductive Destination.Leads (streams : Streams) (destination : Destination) :
    System.TransferTarget → Prop where
  | socket {socket : SocketId} (present : destination.socket = some socket)
      (connected : streams.system.isConnected socket = true) :
      Leads streams destination (.socket socket)
  | file {stream file : StreamId} {handle : HandleId} (socketless : destination.socket = none)
      (present : destination.stream = some stream) (served : streams.file? stream = some file)
      (held : streams.handle file = .ok handle) : Leads streams destination (.file handle)

/-- What the channel makes of a transfer. -/
inductive TransferVerdict where
  | refused (fault : Fault)
  | answered (status : IoStatus)
  | sent (source : StreamId) (handle : HandleId) (target : System.TransferTarget)

/-- An open stream with a file behind it. -/
structure Streams.Serves (streams : Streams) (stream file : StreamId) : Prop where
  isOpen : streams.isClosed stream = false
  served : streams.file? stream = some file

theorem Streams.source_cases (streams : Streams) (source : Option StreamId) :
    (∀ stream ∈ source, streams.isClosed stream = true) ∨
    (∃ stream, source = some stream ∧ streams.isClosed stream = false ∧
      streams.file? stream = none) ∨
    ∃ stream file, source = some stream ∧ streams.Serves stream file := by
  by_cases closed : ∀ stream ∈ source, streams.isClosed stream = true
  · exact .inl closed
  obtain ⟨stream, rfl, isOpen⟩ : ∃ stream, source = some stream ∧
      streams.isClosed stream = false := by simpa using closed
  cases served : streams.file? stream with
  | none => exact .inr (.inl ⟨stream, rfl, isOpen, served⟩)
  | some file => exact .inr (.inr ⟨stream, file, rfl, isOpen, served⟩)

/-- The rules that decide a transfer, in order. Each one says what those before it leave over. -/
inductive TransferRule (streams : Streams) (destination : Destination) (position count : Int64) :
    Option StreamId → TransferVerdict → Prop where
  | closed {source : Option StreamId}
      (closed : ∀ stream ∈ source, streams.isClosed stream = true) :
      TransferRule streams destination position count source (.refused .streamClosed)
  | fileless {stream : StreamId} (isOpen : streams.isClosed stream = false)
      (fileless : streams.file? stream = none) :
      TransferRule streams destination position count (some stream)
        (.refused (.io "Transfer failed. Cannot transfer from non-file stream." none))
  | negative {stream file : StreamId} (source : streams.Serves stream file)
      (negative : position < 0 ∨ count < 0) :
      TransferRule streams destination position count (some stream)
        (.refused (.io "Transfer failed." none))
  | nothing {stream file : StreamId} (source : streams.Serves stream file) (placed : 0 ≤ position)
      (nothing : count = 0) :
      TransferRule streams destination position count (some stream) (.answered (.ok 0))
  | unconnected {stream file : StreamId} {socket : SocketId} (source : streams.Serves stream file)
      (placed : 0 ≤ position) (positive : 0 < count) (present : destination.socket = some socket)
      (unconnected : streams.system.isConnected socket = false) :
      TransferRule streams destination position count (some stream) (.answered .unsupportedCase)
  | nowhere {stream file : StreamId} (source : streams.Serves stream file) (placed : 0 ≤ position)
      (positive : 0 < count) (socketless : destination.socket = none)
      (nowhere : ∀ target, ¬ destination.Leads streams target) :
      TransferRule streams destination position count (some stream) (.answered .unsupportedCase)
  | gone {stream file : StreamId} {target : System.TransferTarget}
      (source : streams.Serves stream file) (placed : 0 ≤ position) (positive : 0 < count)
      (leads : destination.Leads streams target)
      (gone : ∀ handle, streams.handle file ≠ .ok handle) :
      TransferRule streams destination position count (some stream) (.answered .unavailable)
  | sent {stream file : StreamId} {handle : HandleId} {target : System.TransferTarget}
      (source : streams.Serves stream file) (placed : 0 ≤ position) (positive : 0 < count)
      (leads : destination.Leads streams target) (held : streams.handle file = .ok handle) :
      TransferRule streams destination position count (some stream) (.sent stream handle target)

namespace Channel

variable {state : Type} {channel : Channel state} {world : World state} {streams : Streams}
  {destination : Destination} {target : System.TransferTarget} {position count : Int64}
  {source : Option StreamId} {verdict : TransferVerdict}

theorem not_negative_iff : ¬ (position < 0 ∨ count < 0) ↔ 0 ≤ position ∧ 0 ≤ count := by
  rw [not_or, Int64.not_lt, Int64.not_lt]

theorem target?_eq_some_iff :
    target? streams destination = some target ↔ destination.Leads streams target := by
  obtain ⟨socket?, stream?⟩ := destination
  constructor
  · intro chosen
    cases socket? with
    | some socket =>
      simp only [target?] at chosen
      split at chosen <;> cases chosen
      exact .socket rfl ‹_›
    | none =>
      simp only [target?] at chosen
      split at chosen <;> cases chosen
      rename_i found
      obtain ⟨file, served, held⟩ := Option.map_eq_some_iff.1 found
      obtain ⟨stream, present, served⟩ := Option.bind_eq_some_iff.1 served
      exact .file rfl present served held
  · intro leads
    cases leads with
    | socket present connected =>
      cases present
      simp [target?, connected]
    | file socketless present served held =>
      cases socketless
      cases present
      simp [target?, served, held]

theorem target?_eq_none_iff :
    target? streams destination = none ↔ ∀ target, ¬ destination.Leads streams target := by
  rw [Option.eq_none_iff_forall_ne_some]
  exact forall_congr' fun target => not_congr target?_eq_some_iff

theorem run_openStream_of_closed (closed : ∀ stream ∈ source, streams.isClosed stream = true) :
    openStream streams source = .error .streamClosed := by
  cases source with
  | none => rfl
  | some stream => rw [openStream, if_pos (closed stream rfl)]

theorem run_openStream_of_open {stream : StreamId} (isOpen : streams.isClosed stream = false) :
    openStream streams (some stream) = .ok stream := by
  rw [openStream, if_neg (by simp [isOpen])]

/-- What is left to do when the rules have decided. -/
def carryOut (channel : Channel state) (position count : Int64) :
    TransferVerdict → Action (World state) Fault IoStatus
  | .refused fault => throw fault
  | .answered status => return status
  | .sent source handle target => do
    if channel.backend.seeksBeforeTransfer then
      if let some status ← seekSource source position.toUInt64 then return status
    World.onMachine (channel.backend.transfer handle position.toUInt64 count.toUInt64 target)

/-- Where there is something to send, the destination comes next and the source's handle last. -/
theorem run_transfer_of_amount {stream file : StreamId} (source : world.streams.Serves stream file)
    (placed : 0 ≤ position) (positive : 0 < count) :
    (channel.transfer (some stream) position count destination).run world =
      (match target? world.streams destination, world.streams.handle file with
        | none, _ => return .unsupportedCase
        | some _, .error cause => liftM (streamStatus cause transferFailed)
        | some target, .ok handle => channel.carryOut position count (.sent stream handle target) :
          Action (World state) Fault IoStatus).run world := by
  have inRange : ¬ (position < 0 ∨ count < 0) :=
    not_negative_iff.2 ⟨placed, Int64.le_of_lt positive⟩
  have asked : count ≠ 0 := (Int64.ne_of_lt positive).symm
  simp only [transfer, Action.run_bind, Action.run_get, Action.run_liftM,
    run_openStream_of_open source.isOpen, source.served, if_neg inRange, if_neg asked]
  cases target? world.streams destination with
  | none => rfl
  | some target =>
    cases world.streams.handle file with
    | error cause => rfl
    | ok handle => rfl

theorem run_transfer_of_rule
    (rule : TransferRule world.streams destination position count source verdict) :
    (channel.transfer source position count destination).run world =
      (channel.carryOut position count verdict).run world := by
  cases rule with
  | closed closed => simp [transfer, Action.run_bind, run_openStream_of_closed closed, carryOut]
  | fileless isOpen fileless =>
    simp [transfer, Action.run_bind, run_openStream_of_open isOpen, fileless, carryOut]
  | negative source negative =>
    simp [transfer, Action.run_bind, run_openStream_of_open source.isOpen, source.served, negative,
      carryOut, transferFailed]
  | nothing source placed nothing =>
    have inRange : ¬ (position < 0 ∨ count < 0) := not_negative_iff.2 ⟨placed, by simp [nothing]⟩
    simp only [transfer, Action.run_bind, Action.run_get, Action.run_liftM,
      run_openStream_of_open source.isOpen, source.served, if_neg inRange, if_pos nothing]
    rfl
  | unconnected source placed positive present unconnected =>
    have blocked : target? world.streams destination = none := by
      simp [target?, present, unconnected]
    rw [run_transfer_of_amount source placed positive, blocked]
    rfl
  | nowhere source placed positive socketless nowhere =>
    rw [run_transfer_of_amount source placed positive, target?_eq_none_iff.2 nowhere]
    rfl
  | @gone stream file target source placed positive leads gone =>
    cases found : world.streams.handle file with
    | ok handle => exact absurd found (gone handle)
    | error cause =>
      obtain rfl := Streams.handle_error found
      rw [run_transfer_of_amount source placed positive, target?_eq_some_iff.2 leads, found]
      rfl
  | sent source placed positive leads held =>
    rw [run_transfer_of_amount source placed positive, target?_eq_some_iff.2 leads, held]

/-- The rules leave no transfer undecided. -/
theorem exists_rule (streams : Streams) (source : Option StreamId) (position count : Int64)
    (destination : Destination) :
    ∃ verdict, TransferRule streams destination position count source verdict := by
  obtain closed | ⟨stream, rfl, isOpen, fileless⟩ | ⟨stream, file, rfl, serves⟩ :=
    streams.source_cases source
  · exact ⟨_, .closed closed⟩
  · exact ⟨_, .fileless isOpen fileless⟩
  · by_cases negative : position < 0 ∨ count < 0
    · exact ⟨_, .negative serves negative⟩
    obtain ⟨placed, counted⟩ := not_negative_iff.1 negative
    by_cases nothing : count = 0
    · exact ⟨_, .nothing serves placed nothing⟩
    have positive : 0 < count := Int64.lt_of_le_of_ne counted (Ne.symm nothing)
    cases chosen : target? streams destination with
    | some target =>
      have leads := target?_eq_some_iff.1 chosen
      cases found : streams.handle file with
      | ok handle => exact ⟨_, .sent serves placed positive leads found⟩
      | error cause => exact ⟨_, .gone serves placed positive leads (by simp [found])⟩
    | none =>
      have nowhere := target?_eq_none_iff.1 chosen
      cases present : destination.socket with
      | none => exact ⟨_, .nowhere serves placed positive present nowhere⟩
      | some socket =>
        have unconnected : streams.system.isConnected socket = false := by
          simpa using fun connected => nowhere (.socket socket) (.socket present connected)
        exact ⟨_, .unconnected serves placed positive present unconnected⟩

theorem run_seekSource {stream : StreamId} {position : UInt64}
    (seekable : world.streams.Seekable stream position) :
    ∃ streams, (seekSource stream position).run world = (.ok none, { world with streams }) ∧
      world.streams.Placed stream position streams := by
  obtain ⟨canSeek, queried, sought⟩ := seekable
  -- Asking for the position moves nothing, so the second question is put to the same streams.
  have unmoved := Streams.readsOnly_position stream world.streams
  rcases asked : (Streams.position stream).run world.streams with ⟨cause | found, streams⟩ <;>
    rw [asked] at queried unmoved
  · cases queried
  subst unmoved
  rcases moved : (Streams.seek stream position).run world.streams with ⟨cause | reached, after⟩ <;>
    rw [moved] at sought
  · cases sought
  have ran : (seekSource stream position).run world = if found = position then (.ok none, world)
      else (.ok none, { world with streams := after }) := by
    simp only [seekSource, Action.run_bind, World.onStreams, Action.run_within, Action.run_attempt,
      World.streamsPart, asked]
    split
    · rfl
    · simp [Action.run_bind, canSeek, Action.run_within, Action.run_attempt, moved]
  rw [ran]
  by_cases there : found = position
  · rw [if_pos there]
    exact ⟨world.streams, rfl, .there (by rw [asked, there])⟩
  · rw [if_neg there]
    exact ⟨after, rfl, .moved moved⟩

theorem run_carryOut_of_direct (direct : channel.backend.seeksBeforeTransfer = false)
    (stream : StreamId) (handle : HandleId) (target : System.TransferTarget) :
    (channel.carryOut position count (.sent stream handle target)).run world =
      (World.onMachine
        (channel.backend.transfer handle position.toUInt64 count.toUInt64 target)).run world := by
  simp [carryOut, direct]

theorem run_carryOut_of_sought (seeks : channel.backend.seeksBeforeTransfer = true)
    {stream : StreamId} {after : Streams}
    (ran : (seekSource stream position.toUInt64).run world =
      (.ok none, { world with streams := after })) (handle : HandleId)
    (target : System.TransferTarget) :
    (channel.carryOut position count (.sent stream handle target)).run world =
      (World.onMachine
        (channel.backend.transfer handle position.toUInt64 count.toUInt64 target)).run
          { world with streams := after } := by
  simp [carryOut, seeks, Action.run_bind, ran]

/-- One of the rules applies to any transfer, and any that applies decides it. Where it does not let
the transfer through, nothing has happened at all. Where it does, the one call to the backend is the
only one and has the last word; the streams that the backend finds are those from before, unless it
wants the source to be sought first. -/
theorem transfer_decided (backend : Backend state) (pressure : CounterId) (readsAhead : Bool)
    (source : Option StreamId) (position count : Int64) (destination : Destination)
    (world : World (Recording state)) :
    let channel : Channel (Recording state) := ⟨backend.recorded, pressure, readsAhead⟩
    let ended := (channel.transfer source position count destination).run world
    (∃ verdict, TransferRule world.streams destination position count source verdict) ∧
    ∀ verdict, TransferRule world.streams destination position count source verdict →
      match verdict with
      | .refused fault => ended = (.error fault, world)
      | .answered status => ended = (.ok status, world)
      | .sent stream handle target =>
        (backend.seeksBeforeTransfer = true →
          world.streams.Seekable stream position.toUInt64) →
        ∃ streams : Streams,
          let sent := (backend.transfer handle position.toUInt64 count.toUInt64 target).run
            ⟨world.backends.own, streams.system⟩
          ended = (sent.1,
            { world with
              streams := { streams with system := sent.2.system }
              backends :=
                { own := sent.2.own
                  calls := world.backends.calls ++
                    [.transfer handle position.toUInt64 count.toUInt64 target] } }) ∧
          (backend.seeksBeforeTransfer = false → streams = world.streams) ∧
          (backend.seeksBeforeTransfer = true →
            world.streams.Placed stream position.toUInt64 streams ∧
              ∀ file, world.streams.stream stream = .file file →
                ((Streams.position stream).run streams).1 = .ok position.toUInt64) := by
  intro channel ended
  refine ⟨exists_rule .., fun verdict rule => ?_⟩
  have decided : ended = (channel.carryOut position count verdict).run world :=
    run_transfer_of_rule rule
  cases verdict with
  | refused fault => exact decided
  | answered status => exact decided
  | sent stream handle target =>
    intro seekable
    cases seeks : backend.seeksBeforeTransfer with
    | false =>
      refine ⟨world.streams, ?_, fun _ => rfl, by simp⟩
      rw [decided, run_carryOut_of_direct seeks]
      rfl
    | true =>
      obtain ⟨streams, ran, placed⟩ := run_seekSource (seekable seeks)
      refine ⟨streams, ?_, by simp, fun _ => ⟨placed, fun file known => ?_⟩⟩
      · rw [decided, run_carryOut_of_sought seeks ran]
        rfl
      · exact placed.position_eq known

/-- An open file, a device before a file that is closed, and that file; and a socket with a peer. -/
def offered : World (Recording Script) where
  streams :=
    { table := #[.file ⟨"source", false, some ⟨0⟩⟩,
        .device { canSeek := true, backing := some ⟨2⟩ }, .file ⟨"closed", false, none⟩]
      system :=
        { handles := #[⟨⟨0⟩, 7, true, false, false⟩]
          sockets := #[{ connected := true }] } }
  backends := { own := { transferAnswers := [.ok (.ok 4)] } }

theorem offered_sent :
    let backend := Backend.scripted { name := "scripted", seeksBeforeTransfer := true }
    let channel : Channel (Recording Script) := ⟨backend.recorded, ⟨0⟩, false⟩
    let ended := (channel.transfer (some ⟨0⟩) 3 5 ⟨some ⟨0⟩, some ⟨0⟩⟩).run offered
    TransferRule offered.streams ⟨some ⟨0⟩, some ⟨0⟩⟩ 3 5 (some ⟨0⟩)
        (.sent ⟨0⟩ ⟨0⟩ (.socket ⟨0⟩)) ∧
      offered.streams.Seekable ⟨0⟩ 3 ∧
      ended.1 = .ok (.ok 4) ∧
      ended.2.backends.calls = [.transfer ⟨0⟩ 3 5 (.socket ⟨0⟩)] := by
  intro backend channel ended
  have rule : TransferRule offered.streams ⟨some ⟨0⟩, some ⟨0⟩⟩ 3 5 (some ⟨0⟩)
      (.sent ⟨0⟩ ⟨0⟩ (.socket ⟨0⟩)) :=
    .sent ⟨rfl, rfl⟩ (by decide) (by decide) (.socket rfl rfl) rfl
  have seekable : offered.streams.Seekable ⟨0⟩ 3 :=
    Streams.seekable_of_file rfl rfl rfl ⟨by decide, rfl⟩
  obtain ⟨streams, sent, -⟩ :=
    (transfer_decided backend ⟨0⟩ false (some ⟨0⟩) 3 5 ⟨some ⟨0⟩, some ⟨0⟩⟩ offered).2 _ rule
      fun _ => seekable
  refine ⟨rule, seekable, ?_, ?_⟩
  · rw [show ended = _ from sent]
    rfl
  · rw [show ended = _ from sent]
    rfl

/-- The source is open and has a file behind it, and there is something to send and a socket to send
it to; but the file has been closed, and the backend is not asked. -/
theorem offered_unavailable :
    let channel : Channel (Recording Script) :=
      ⟨(Backend.scripted { name := "scripted" }).recorded, ⟨0⟩, false⟩
    let ended := (channel.transfer (some ⟨1⟩) 0 3 ⟨some ⟨0⟩, none⟩).run offered
    offered.streams.isClosed ⟨1⟩ = false ∧ offered.streams.file? ⟨1⟩ = some ⟨2⟩ ∧
      offered.streams.system.isConnected ⟨0⟩ = true ∧
      ended.1 = .ok .unavailable ∧ ended.2.backends.calls = [] :=
  ⟨rfl, rfl, rfl, rfl, rfl⟩

end Channel

end GuestBridge
