import GuestBridge.Backend.Unsupported
import GuestBridge.Proofs.MemberReads
import GuestBridge.Proofs.RegionCalls
import GuestBridge.Proofs.StreamHistories
import Mathlib.Control.Monad.Basic

/-!
Closed streams. From its closing on a file stream or a pipe is closed and cannot be sought, whatever
is asked of it or of others; reading and writing fail, and nothing that is asked of it changes
anything. Flushing it fails if it is a file stream. A closed pipe is flushed like an open one, and
so the guest is told that its bytes are stored.
-/
namespace GuestBridge

open Posix

namespace Stream

/-- What closing leaves of a file stream or a pipe. -/
inductive Shut : Stream → Prop where
  | file (path : String) (appends : Bool) : Shut (.file ⟨path, appends, none⟩)
  | pipe : Shut (.pipe { closed := true })

def isPipe : Stream → Bool
  | pipe _ => true
  | _ => false

variable {known : Stream}

theorem shut_close (plain : ∀ device, known ≠ .device device) : known.close.Shut := by
  cases known with
  | file known => exact .file known.path known.appends
  | pipe known => exact .pipe
  | device known => exact absurd rfl (plain known)

theorem Shut.close_eq (shut : known.Shut) : known.close = known := by
  cases shut <;> rfl

theorem isPipe_close (known : Stream) : known.close.isPipe = known.isPipe := by
  cases known <;> rfl

/-- What flushing a closed file stream or pipe answers. -/
def flushedShut (known : Stream) : Except SystemError Unit :=
  if known.isPipe then .ok () else .error closedFault

end Stream

namespace Streams

variable {streams : Streams} {stream : StreamId} {known : Stream}

theorem Holds.handle_of_shut (here : streams.Holds stream known) (shut : known.Shut) :
    streams.handle stream = .error Stream.closedFault := by
  cases shut <;> rw [Streams.handle, here.stream_eq]

theorem Holds.run_readInto_of_shut (here : streams.Holds stream known) (shut : known.Shut)
    (buffer : Bytes) :
    (readInto stream buffer).run streams = (.error Stream.closedFault, streams) := by
  have gone := here.handle_of_shut shut
  cases shut <;> simp [readInto, Action.run_bind, here.stream_eq, gone]

theorem Holds.run_write_of_shut (here : streams.Holds stream known) (shut : known.Shut)
    (bytes : Bytes) :
    (write stream bytes).run streams = (.error Stream.closedFault, streams) := by
  have gone := here.handle_of_shut shut
  cases shut <;> simp [write, Action.run_bind, here.stream_eq, gone]

theorem Holds.run_flush_of_shut (here : streams.Holds stream known) (shut : known.Shut) :
    (flush stream).run streams = (known.flushedShut, streams) := by
  have gone := here.handle_of_shut shut
  cases shut <;> simp [flush, Action.run_bind, here.stream_eq, gone, Stream.flushedShut,
    Stream.isPipe, Except.map]

/-- A request to a closed file stream or pipe changes nothing. -/
theorem Holds.respond_of_shut {request : StreamRequest} (here : streams.Holds stream known)
    (shut : known.Shut) (asked : request.stream? = some stream) :
    streams.respond request = streams := by
  have gone := here.handle_of_shut shut
  cases request <;> cases asked
  case read buffer => exact congrArg Prod.snd (here.run_readInto_of_shut shut buffer)
  case write bytes => exact congrArg Prod.snd (here.run_write_of_shut shut bytes)
  case flush => exact congrArg Prod.snd (here.run_flush_of_shut shut)
  case close =>
    rw [Streams.respond, close, here.stream_eq, shut.close_eq, here.setStream_self]
  case seek target =>
    cases shut <;> simp [Streams.respond, seek, Action.run_bind, here.stream_eq, gone]
  case position =>
    cases shut <;> simp [Streams.respond, position, Action.run_bind, here.stream_eq, gone]
  case fileSize => simp [Streams.respond, fileSize, Action.run_bind, gone]
  case setFileSize size => simp [Streams.respond, setFileSize, Action.run_bind, gone]
  case available => rfl
  case sync => rfl

theorem Holds.respond_shut (here : streams.Holds stream known) (shut : known.Shut)
    (request : StreamRequest) : (streams.respond request).Holds stream known := by
  by_cases asked : request.stream? = some stream
  · rwa [here.respond_of_shut shut asked]
  · refine here.respond ?_ ?_ ?_
    · rintro buffer rfl
      exact asked rfl
    · rintro bytes rfl
      exact asked rfl
    · rintro rfl
      exact asked rfl

theorem Holds.after_shut (here : streams.Holds stream known) (shut : known.Shut)
    (history : List StreamRequest) : (streams.after history).Holds stream known := by
  induction history generalizing streams with
  | nil => exact here
  | cons request rest ih => exact ih (here.respond_shut shut request)

/-- How a stream that has been closed is found, and what it answers. -/
structure Finished (streams : Streams) (stream : StreamId) (flushed : Except SystemError Unit) :
    Prop where
  closed : streams.isClosed stream = true
  unseekable : streams.canSeek stream = false
  unchanged : ∀ request : StreamRequest, request.stream? = some stream →
    streams.respond request = streams
  read : ∀ buffer, ((readInto stream buffer).run streams).1 = .error Stream.closedFault
  write : ∀ bytes, ((Streams.write stream bytes).run streams).1 = .error Stream.closedFault
  flush : ((Streams.flush stream).run streams).1 = flushed

theorem Holds.finished (here : streams.Holds stream known) (shut : known.Shut) :
    streams.Finished stream known.flushedShut where
  closed := by
    rw [isClosed, here.stream_eq]
    cases shut <;> rfl
  unseekable := by
    rw [canSeek, here.stream_eq]
    cases shut <;> rfl
  unchanged _ := here.respond_of_shut shut
  read buffer := congrArg Prod.fst (here.run_readInto_of_shut shut buffer)
  write bytes := congrArg Prod.fst (here.run_write_of_shut shut bytes)
  flush := congrArg Prod.fst (here.run_flush_of_shut shut)

end Streams

/-- A bridge with a descriptor, the second object, that holds the first of these streams. -/
def Session.overStreams (streams : Streams) : Session Unit :=
  let session := Session.onFile Backend.unsupported ()
  { session with world := { session.world with streams } }

namespace Bridge

variable {state : Type}

/-- The guest's flush of a descriptor takes another way for files than for other streams. -/
theorem run_flush_of_shut {session : Session state} {descriptor : ObjectId} {stream : StreamId}
    {known : Stream} (found : streamIn session descriptor = .ok (some stream))
    (here : session.world.streams.Holds stream known) (shut : known.Shut) :
    ∃ after, (flush descriptor).run session = (.ok known.isPipe, after) ∧
      session.Resolves after := by
  obtain ⟨resolved, ran, resolves⟩ := run_descriptorStream descriptor session
  refine ⟨resolved, ?_, resolves⟩
  rw [found] at ran
  have there : resolved.world.streams.Holds stream known := resolves.world_eq ▸ here
  have gone := there.handle_of_shut shut
  have flushed := there.run_flush_of_shut shut
  cases shut with
  | file path appends =>
    have file : resolved.world.streams.file? stream = some stream := by
      rw [Streams.file?, there.stream_eq]
    simp only [flush, Action.run_bind, ran, Action.run_get, file, Streams.sync, gone]
    rfl
  | pipe =>
    have fileless : resolved.world.streams.file? stream = none := by
      rw [Streams.file?, there.stream_eq]
    have passed : (Session.onWorld (World.onStreams (Streams.flush stream).attempt) :
        Action (Session state) Fault (Except SystemError Unit)).run resolved =
        (.ok (.ok ()), resolved) := by
      simp only [Session.onWorld, World.onStreams, Action.run_within, Action.run_attempt,
        World.streamsPart, Session.worldPart, flushed]
      rfl
    simp only [flush, Action.run_bind, ran, Action.run_get, fileless, passed]
    rfl

/-- Whatever was asked before a file stream or a pipe was closed and whatever is asked afterwards,
by then it is closed, reads and writes fail, nothing asked of it changes anything, and a flush tells
a file stream that is closed from one that is open, but not a pipe. -/
theorem closed_after {start : Streams} {stream : StreamId} {known : Stream}
    {early : List StreamRequest} (present : (start.after early).Holds stream known)
    (plain : ∀ device, known ≠ .device device) (late : List StreamRequest) :
    let now := start.after (early ++ .close stream :: late)
    now.Finished stream known.flushedShut ∧
      Stream.closedFault.condition = .notConnected ∧
      ∀ (session : Session state) (descriptor : ObjectId), session.world.streams = now →
        streamIn session descriptor = .ok (some stream) →
        ∃ after, (flush descriptor).run session = (.ok known.isPipe, after) ∧
          session.Resolves after := by
  intro now
  have shut := Stream.shut_close plain
  have closing : ((start.after early).respond (.close stream)).Holds stream known.close := by
    rw [Streams.respond, Streams.close, present.stream_eq]
    exact present.setStream_same _
  have here : now.Holds stream known.close := by
    have passed := closing.after_shut shut late
    simpa only [now, Streams.after, List.foldl_append, List.foldl_cons] using passed
  refine ⟨?_, rfl, ?_⟩
  · have finished := here.finished shut
    rwa [Stream.flushedShut, Stream.isPipe_close] at finished
  · rintro session descriptor same found
    have flushed := run_flush_of_shut found (same ▸ here) shut
    rwa [Stream.isPipe_close] at flushed

theorem streams_overStreams (streams : Streams) :
    (Session.overStreams streams).world.streams = streams := rfl

theorem streamIn_overStreams (streams : Streams) :
    streamIn (Session.overStreams streams) ⟨1⟩ = .ok (some ⟨0⟩) := by
  change streamIn (Session.overStreams {}) ⟨1⟩ = _
  decide +kernel

/-- A file is closed while a pipe is open, and asked again when the pipe has been closed too. -/
theorem closed_after_of_file :
    let start : Streams :=
      { system := { files := #[{}], handles := #[⟨⟨0⟩, 0, true, true, false⟩] }
        table := #[.file ⟨"data", false, some ⟨0⟩⟩] }
    let early : List StreamRequest := [.seek ⟨0⟩ 7, .add (.pipe {}), .write ⟨1⟩ [1, 2]]
    let late : List StreamRequest := [.write ⟨0⟩ [3], .close ⟨1⟩, .seek ⟨0⟩ 0]
    let now := start.after (early ++ .close ⟨0⟩ :: late)
    let session := Session.overStreams now
    now.Finished ⟨0⟩ (.error Stream.closedFault) ∧
      ∃ after, (flush ⟨1⟩).run session = (.ok false, after) ∧ session.Resolves after := by
  intro start early late now session
  have present : (start.after early).Holds ⟨0⟩ (.file ⟨"data", false, some ⟨0⟩⟩) := rfl
  have plain (device : Device) : Stream.file ⟨"data", false, some ⟨0⟩⟩ ≠ .device device := by
    rintro ⟨⟩
  obtain ⟨finished, -, flushed⟩ := closed_after present plain late
  have same : session.world.streams = now := streams_overStreams now
  exact ⟨finished, flushed session ⟨1⟩ same (streamIn_overStreams now)⟩

/-- A pipe that is closed is flushed all the same, by the guest too. -/
theorem flushed_after_closing :
    let now := ({} : Streams).after [.add (.pipe {}), .close ⟨0⟩]
    let session := Session.overStreams now
    now.isClosed ⟨0⟩ = true ∧ ((Streams.flush ⟨0⟩).run now).1 = .ok () ∧
      streamIn session ⟨1⟩ = .ok (some ⟨0⟩) ∧ ((flush ⟨1⟩).run session).1 = .ok true := by
  decide +kernel

end Bridge

end GuestBridge
