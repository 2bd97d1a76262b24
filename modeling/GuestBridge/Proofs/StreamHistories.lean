import GuestBridge.Proofs.Actions
import GuestBridge.Stream.Opening

/-!
Streams under any requests in any order, whatever else happens to the system under them. A stream
that is there stays as it is unless it is itself read, written or closed; new streams come behind
the ones that are there.
-/
namespace GuestBridge

open Posix

/-- What can be asked of streams, and what can happen to the system beside that. -/
inductive StreamRequest where
  | openFile (path : String) (mode : FileMode) (access : FileAccess)
  | add (stream : Stream)
  | read (stream : StreamId) (buffer : Bytes)
  | write (stream : StreamId) (bytes : Bytes)
  | available (stream : StreamId)
  | seek (stream : StreamId) (target : UInt64)
  | position (stream : StreamId)
  | flush (stream : StreamId)
  | fileSize (file : StreamId)
  | setFileSize (file : StreamId) (size : Nat)
  | sync (file : StreamId)
  | close (stream : StreamId)
  | system (change : System → System)

/-- The stream that is asked. -/
def StreamRequest.stream? : StreamRequest → Option StreamId
  | openFile .. | add _ | system _ => none
  | read stream _ | write stream _ | available stream | seek stream _ | position stream
  | flush stream | fileSize stream | setFileSize stream _ | sync stream | close stream =>
    some stream

namespace Streams

def respond (streams : Streams) : StreamRequest → Streams
  | .openFile path mode access => ((openFile path mode access).run streams).2
  | .add stream => (streams.add stream).2
  | .read stream buffer => ((readInto stream buffer).run streams).2
  | .write stream bytes => ((write stream bytes).run streams).2
  | .seek stream target => ((seek stream target).run streams).2
  | .position stream => ((position stream).run streams).2
  | .flush stream => ((flush stream).run streams).2
  | .fileSize file => ((fileSize file).run streams).2
  | .setFileSize file size => ((setFileSize file size).run streams).2
  | .close stream => streams.close stream
  | .system change => { streams with system := change streams.system }
  | .available _ | .sync _ => streams

def after (start : Streams) (history : List StreamRequest) : Streams := history.foldl respond start

/-- The stream with this identity is there, and it is this one. -/
def Holds (stream : StreamId) (known : Stream) (streams : Streams) : Prop :=
  streams.table[stream.index]? = some known

variable {streams : Streams} {stream other : StreamId} {known added : Stream}
  {result value failure : Type}

theorem Holds.stream_eq (here : streams.Holds stream known) : streams.stream stream = known := by
  rw [Streams.stream, here, Option.getD_some]

theorem Holds.bound (here : streams.Holds stream known) : stream.index < streams.table.size :=
  (Array.getElem?_eq_some_iff.1 here).1

theorem Holds.add (here : streams.Holds stream known) (added : Stream) :
    (streams.add added).2.Holds stream known := by
  rw [Holds, Streams.add, Array.getElem?_push_lt here.bound, ← Array.getElem?_eq_getElem here.bound]
  exact here

theorem holds_add (streams : Streams) (added : Stream) :
    (streams.add added).2.Holds ⟨streams.table.size⟩ added :=
  Array.getElem?_push_size

theorem Holds.setStream_same (here : streams.Holds stream known) (updated : Stream) :
    (streams.setStream stream updated).Holds stream updated := by
  rw [Holds, Streams.setStream, Array.getElem?_setIfInBounds, if_pos rfl, if_pos here.bound]

theorem Holds.setStream_ne (here : streams.Holds stream known) (different : other ≠ stream)
    (updated : Stream) : (streams.setStream other updated).Holds stream known := by
  have apart : other.index ≠ stream.index := fun same => different (congrArg StreamId.mk same)
  rw [Holds, Streams.setStream, Array.getElem?_setIfInBounds, if_neg apart]
  exact here

/-- Putting a stream back as it was. -/
theorem Holds.setStream_self (here : streams.Holds stream known) :
    streams.setStream stream known = streams := by
  obtain ⟨bound, rfl⟩ := Array.getElem?_eq_some_iff.1 here
  rw [Streams.setStream, Array.setIfInBounds_def, dif_pos bound, Array.set_getElem_self]

open GuestBridge.Action

theorem keeps_onSystem (action : Action System failure result) :
    (onSystem action).Keeps (Holds stream known) :=
  fun _ here => here

theorem keeps_onHandle (file : StreamId) (answer : result → value)
    (operation : HandleId → Action System SystemError result) : Keeps (Holds stream known) (do
      return answer (← onSystem (operation (← (← get).handle file))) :
        Action Streams SystemError value) :=
  .bind (.of_readsOnly .get) fun _ => .bind (.of_readsOnly (.liftM _)) fun _ =>
    .bind (keeps_onSystem _) fun _ => .of_readsOnly (.pure _)

theorem keeps_openFile (path : String) (mode : FileMode) (access : FileAccess) :
    (openFile path mode access).Keeps (Holds stream known) := by
  have opening : (openHandle path (mode.flags access)).Keeps (Holds stream known) := by
    unfold openHandle
    split
    · exact .of_readsOnly (.throw _)
    · exact keeps_onSystem _
  unfold openFile
  split
  · exact .of_readsOnly (.throw _)
  · refine .bind (.mapFailure _ opening) fun handle => .get_bind fun before here => ?_
    exact here.add _

theorem keeps_readInto (different : other ≠ stream) (buffer : Bytes) :
    (readInto other buffer).Keeps (Holds stream known) := by
  refine .bind (.of_readsOnly .get) fun streams => ?_
  split
  case h_1 => exact keeps_onHandle other _ _
  case h_2 pipe _ =>
    dsimp only
    split
    · exact .of_readsOnly (.throw _)
    · refine .bind (.modify fun _ here => here.setStream_ne different _) fun _ => ?_
      exact .of_readsOnly (.pure _)
  case h_3 => exact .of_readsOnly (.pure _)

theorem keeps_write (different : other ≠ stream) (bytes : Bytes) :
    (write other bytes).Keeps (Holds stream known) := by
  refine .bind (.of_readsOnly .get) fun streams => ?_
  split
  case h_1 => exact keeps_onHandle other _ _
  case h_2 pipe _ =>
    dsimp only
    split
    · exact .of_readsOnly (.throw _)
    · refine .bind (.modify fun _ here => here.setStream_ne different _) fun _ => ?_
      exact .of_readsOnly (.pure _)
  case h_3 => exact .of_readsOnly (.pure _)

theorem keeps_seek (other : StreamId) (target : UInt64) :
    (seek other target).Keeps (Holds stream known) := by
  refine .bind (.of_readsOnly .get) fun streams => ?_
  split
  case h_1 => exact keeps_onHandle other _ _
  case h_2 => exact .of_readsOnly (.throw _)
  case h_3 => exact .of_readsOnly (.liftM _)

theorem keeps_position (other : StreamId) : (position other).Keeps (Holds stream known) := by
  refine .bind (.of_readsOnly .get) fun streams => ?_
  split
  case h_1 => exact keeps_onHandle other _ _
  case h_2 => exact .of_readsOnly (.throw _)
  case h_3 => exact .of_readsOnly (.liftM _)

theorem readsOnly_flush (stream : StreamId) : (flush stream).ReadsOnly := by
  refine .bind .get fun streams => ?_
  split
  case h_1 => exact .bind .get fun _ => .bind (.liftM _) fun _ => .pure _
  case h_2 => exact .pure _
  case h_3 => exact .liftM _

theorem keeps_flush (other : StreamId) : (flush other).Keeps (Holds stream known) :=
  .of_readsOnly (readsOnly_flush other)

theorem keeps_fileSize (file : StreamId) : (fileSize file).Keeps (Holds stream known) :=
  .bind (.of_readsOnly .get) fun _ => .bind (.of_readsOnly (.liftM _)) fun _ => keeps_onSystem _

theorem keeps_setFileSize (file : StreamId) (size : Nat) :
    (setFileSize file size).Keeps (Holds stream known) :=
  .bind (.of_readsOnly .get) fun _ => .bind (.of_readsOnly (.liftM _)) fun _ => keeps_onSystem _

/-- Only three requests change a stream, and only the stream that they name. -/
theorem Holds.respond {request : StreamRequest} (here : streams.Holds stream known)
    (unread : ∀ buffer, request ≠ .read stream buffer)
    (unwritten : ∀ bytes, request ≠ .write stream bytes) (unclosed : request ≠ .close stream) :
    (streams.respond request).Holds stream known := by
  cases request with
  | openFile path mode access => exact keeps_openFile path mode access streams here
  | add added => exact here.add added
  | read other buffer =>
    have different : other ≠ stream := fun same => unread buffer (same ▸ rfl)
    exact keeps_readInto different buffer streams here
  | write other bytes =>
    have different : other ≠ stream := fun same => unwritten bytes (same ▸ rfl)
    exact keeps_write different bytes streams here
  | close other =>
    have different : other ≠ stream := fun same => unclosed (same ▸ rfl)
    exact here.setStream_ne different _
  | seek other target => exact keeps_seek other target streams here
  | position other => exact keeps_position other streams here
  | flush other => exact keeps_flush other streams here
  | fileSize file => exact keeps_fileSize file streams here
  | setFileSize file size => exact keeps_setFileSize file size streams here
  | available | sync | system => exact here

end Streams

end GuestBridge
