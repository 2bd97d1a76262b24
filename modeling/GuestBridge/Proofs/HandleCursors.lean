import GuestBridge.Backend.Unix
import GuestBridge.Proofs.FileOpenings

/-!
Open files and what leaves them as they are. An open file, with its cursor, belongs to one handle,
and that to one stream, in every run of openings and other requests. Others on the same file have
cursors of their own. Advice, mappings and the reading side of a transfer go through a handle
without moving its cursor; the writing side moves the cursor of its own handle only.
-/
namespace GuestBridge

open Posix

namespace Posix.System

/-- The system has this open file under this handle. -/
def Has (handle : HandleId) (opened : OpenFile) (system : System) : Prop :=
  system.handles[handle.index]? = some opened

/-- The system has this open file under this handle, and its kernel is this one. -/
structure Stands (kernel : Kernel) (handle : HandleId) (opened : OpenFile) (system : System) :
    Prop where
  has : system.Has handle opened
  kernel_eq : system.kernel = kernel

variable {system : System} {kernel : Kernel} {handle other : HandleId} {opened : OpenFile}

theorem Stands.setCursor_ne (stands : system.Stands kernel handle opened) (apart : other ≠ handle)
    (cursor : Nat) : (system.setCursor other cursor).Stands kernel handle opened := by
  have apart : other.index ≠ handle.index := fun same => apart (congrArg HandleId.mk same)
  refine ⟨?_, stands.kernel_eq⟩
  rw [Has, System.setCursor, Array.getElem?_modify, if_neg apart]
  exact stands.has

theorem Stands.setCursor_same (stands : system.Stands kernel handle opened) (cursor : Nat) :
    (system.setCursor handle cursor).Stands kernel handle { opened with cursor } := by
  refine ⟨?_, stands.kernel_eq⟩
  rw [Has, System.setCursor, Array.getElem?_modify, if_pos rfl]
  exact congrArg (Option.map _) stands.has

theorem Stands.put_ne (stands : system.Stands kernel handle opened) (apart : other ≠ handle)
    (file : FileId) (start : Nat) (bytes : Content) :
    (system.put other file start bytes).Stands kernel handle opened := by
  have changed : (system.changeFile file (·.write start bytes)).Stands kernel handle opened :=
    ⟨stands.has, stands.kernel_eq⟩
  exact changed.setCursor_ne apart _

/-- What is delivered moves at most the cursor that it is written at. -/
theorem Stands.deliver (stands : system.Stands kernel handle opened) {target : TransferTarget}
    (apart : target ≠ .file handle) (file : FileId) (position : Nat) (bytes : Content) :
    (system.deliver file position bytes target).Stands kernel handle opened := by
  cases target with
  | file written =>
    have other : written ≠ handle := fun same => apart (congrArg _ same)
    unfold System.deliver
    dsimp only
    split
    · exact stands.put_ne other _ _ _
    · exact stands
  | socket => exact ⟨stands.has, stands.kernel_eq⟩

open GuestBridge.Action

/-- A seek through another handle moves nothing here. -/
theorem keeps_seek (apart : other ≠ handle) (target : Nat) :
    (seek other target).Keeps (Stands kernel handle opened) := by
  refine .bind (.of_readsOnly (readsOnly_lookHandle other)) fun _ => .check fun _ => ?_
  refine .bind (.of_readsOnly .get) fun _ => .bind (.of_readsOnly (.liftM _)) fun _ => ?_
  exact .bind (.modify fun _ stands => stands.setCursor_ne apart _) fun _ =>
    .of_readsOnly (.pure _)

/-- A transfer moves at most the cursor that it writes at. -/
theorem keeps_sendFile {target : TransferTarget} (apart : target ≠ .file handle)
    (source : HandleId) (position count : Nat) :
    (sendFile target source position count).Keeps (Stands kernel handle opened) := by
  have sending (file : FileId) (bytes : Content) (amount : Except SystemError Nat) :
      Keeps (Stands kernel handle opened) (do
        modify called
        let sent ← amount
        if 0 < sent then modify (·.deliver file position (bytes.take sent) target)
        return sent : Action System SystemError Nat) := by
    refine .bind (.modify fun _ stands => ⟨stands.has, stands.kernel_eq⟩) fun _ => ?_
    refine .bind (.of_readsOnly (.liftM _)) fun sent => ?_
    split
    · exact .bind (.modify fun _ stands => stands.deliver apart _ _ _) fun _ =>
        .of_readsOnly (.pure _)
    · exact .of_readsOnly (.pure _)
  have looks (written : HandleId) : (some <$> lookHandle written).ReadsOnly := by
    intro before
    rw [Action.run_map, readsOnly_lookHandle]
  refine .bind (.of_readsOnly (readsOnly_lookHandle source)) fun read => .check fun _ => ?_
  refine .bind (.of_readsOnly .get) fun system => .bind (.of_readsOnly (.liftM _)) fun _ => ?_
  cases target with
  | file written =>
    refine .bind (.of_readsOnly (looks written)) fun _ => .check fun _ => ?_
    refine .bind (.of_readsOnly (.liftM _)) fun _ => .check fun _ => ?_
    dsimp only
    split
    · exact .of_readsOnly (.pure _)
    · exact sending _ _ _
  | socket socket =>
    refine .bind (.of_readsOnly (.pure _)) fun _ => .check fun _ => ?_
    refine .bind (.of_readsOnly (.liftM _)) fun _ => .check fun _ => ?_
    dsimp only
    split
    · exact .of_readsOnly (.pure _)
    · exact .check fun _ => sending _ _ _

theorem keeps_mapFile (file : HandleId) (mode : MapMode) (offset length : Nat) :
    (mapFile file mode offset length).Keeps (Stands kernel handle opened) := by
  refine .bind (.of_readsOnly (readsOnly_lookHandle file)) fun read => ?_
  refine .check fun _ => .get_bind fun system stands => ?_
  split
  · exact Keeps.check (fun _ => .check fun _ => .check fun _ => .check fun _ _ _ =>
      ⟨stands.has, stands.kernel_eq⟩) system stands
  · exact stands

theorem keeps_unmapFile (address : UInt64) (length : Nat) :
    (unmapFile address length).Keeps (Stands kernel handle opened) :=
  .check fun _ => .check fun _ => .modify fun _ stands => ⟨stands.has, stands.kernel_eq⟩

/-- At least so many handles were given out. -/
def Given (count : Nat) (system : System) : Prop := count ≤ system.handles.size

variable {count : Nat}

theorem Given.setCursor (given : system.Given count) (handle : HandleId) (cursor : Nat) :
    (system.setCursor handle cursor).Given count :=
  Nat.le_trans given (Nat.le_of_eq (Array.size_modify ..).symm)

theorem given_read (handle : HandleId) (limit : Nat) : (read handle limit).Keeps (Given count) := by
  refine .bind (.of_readsOnly (readsOnly_lookHandle handle)) fun opened => ?_
  refine .check fun _ => .bind (.of_readsOnly .get) fun _ => .check fun _ => ?_
  refine .bind (.of_readsOnly .get) fun _ => ?_
  exact .bind (.modify fun _ given => given.setCursor _ _) fun _ => .of_readsOnly (.pure _)

theorem given_writeSome (handle : HandleId) (bytes : Content) :
    (writeSome handle bytes).Keeps (Given count) := by
  refine .bind (.of_readsOnly (readsOnly_lookHandle handle)) fun opened => .check fun _ => ?_
  refine .bind (.of_readsOnly .get) fun system => .bind (.modify fun _ given => given) fun _ => ?_
  refine .bind (.of_readsOnly (.liftM _)) fun taken => ?_
  split
  · exact .bind (.modify fun _ given => Given.setCursor given _ _) fun _ => .of_readsOnly (.pure _)
  · exact .of_readsOnly (.pure _)

theorem given_writeAll (handle : HandleId) (limit : Nat) (bytes : Content) :
    (writeAll handle limit bytes).Keeps (Given count) := by
  induction limit generalizing bytes with
  | zero => exact .of_readsOnly (.pure _)
  | succ limit ih =>
    rw [writeAll]
    split
    · exact .of_readsOnly (.pure _)
    · exact .bind (given_writeSome handle bytes) fun taken => .check fun _ => ih _

theorem given_seek (handle : HandleId) (target : Nat) :
    (seek handle target).Keeps (Given count) := by
  refine .bind (.of_readsOnly (readsOnly_lookHandle handle)) fun _ => .check fun _ => ?_
  refine .bind (.of_readsOnly .get) fun _ => .bind (.of_readsOnly (.liftM _)) fun _ => ?_
  exact .bind (.modify fun _ given => given.setCursor _ _) fun _ => .of_readsOnly (.pure _)

theorem given_setSize (handle : HandleId) (size : Nat) :
    (setSize handle size).Keeps (Given count) :=
  .bind (.of_readsOnly (readsOnly_lookHandle handle)) fun _ =>
    .check fun _ => .check fun _ => .bind (.of_readsOnly .get) fun _ =>
      .bind (.of_readsOnly (.liftM _)) fun _ => .modify fun _ given => given

theorem readsOnly_size (handle : HandleId) : (size handle).ReadsOnly :=
  .bind (readsOnly_lookHandle handle) fun _ => .bind .get fun _ => .pure _

end Posix.System

/-- The open file of a handle, on the system of a machine with this kernel. -/
def Machine.Stands {state : Type} (kernel : Kernel) (handle : HandleId) (opened : OpenFile)
    (machine : Machine state) : Prop :=
  machine.system.Stands kernel handle opened

namespace Backend

open GuestBridge.Action

variable {state failure result : Type} {kernel : Kernel} {handle : HandleId} {opened : OpenFile}

/-- A backend through which the cursor of an open file moves only where a transfer is written to the
file. -/
structure LeavesHandles (backend : Backend state) : Prop where
  readAhead : ∀ (file : HandleId) (offset length : UInt64) (kernel : Kernel) (handle : HandleId)
    (opened : OpenFile),
    (backend.readAhead file offset length).Keeps (Machine.Stands kernel handle opened)
  mapMemory : ∀ (file : HandleId) (mode : MapMode) (offset length : UInt64) (kernel : Kernel)
    (handle : HandleId) (opened : OpenFile),
    (backend.mapMemory file mode offset length).Keeps (Machine.Stands kernel handle opened)
  unmapMemory : ∀ (address length : UInt64) (kernel : Kernel) (handle : HandleId)
    (opened : OpenFile),
    (backend.unmapMemory address length).Keeps (Machine.Stands kernel handle opened)
  transfer : ∀ (source : HandleId) (position count : UInt64) (target : System.TransferTarget)
    (kernel : Kernel) (handle : HandleId) (opened : OpenFile), target ≠ .file handle →
    (backend.transfer source position count target).Keeps (Machine.Stands kernel handle opened)

theorem keeps_onSystem {action : Action Posix.System failure result}
    (keeps : action.Keeps (System.Stands kernel handle opened)) :
    (onSystem action : Action (Machine state) failure result).Keeps
      (Machine.Stands kernel handle opened) :=
  fun machine stands => keeps machine.system stands

theorem leavesHandles_unix (loader : LibraryLoader state) : (unix loader).LeavesHandles where
  readAhead file offset length kernel handle opened := by
    refine .bind (.of_readsOnly (.liftM _)) fun _ => .bind (.of_readsOnly (.liftM _)) fun _ => ?_
    refine .bind (keeps_onSystem ?_) fun _ => .of_readsOnly (.pure _)
    exact .of_readsOnly (System.readsOnly_lookHandle file)
  mapMemory file mode offset length kernel handle opened :=
    .bind (.of_readsOnly (.liftM _)) fun _ => keeps_onSystem (System.keeps_mapFile _ _ _ _)
  unmapMemory address length kernel handle opened := keeps_onSystem (System.keeps_unmapFile _ _)
  transfer source position count target kernel handle opened apart := by
    refine .bind (.of_readsOnly fun _ => rfl) fun _ => ?_
    refine .bind (.attempt (keeps_onSystem (System.keeps_sendFile apart _ _ _))) fun sent => ?_
    split
    · exact .of_readsOnly (.liftM _)
    · split <;> exact .of_readsOnly (.pure _)

end Backend

namespace Streams

/-- Each open file stream has a handle of its own, and the system has a file open under it. -/
structure OwnHandles (streams : Streams) : Prop where
  opened : ∀ (stream : StreamId) (handle : HandleId), streams.handle stream = .ok handle →
    ∃ opened, streams.system.Has handle opened
  own : ∀ (stream other : StreamId) (handle : HandleId), streams.handle stream = .ok handle →
    streams.handle other = .ok handle → other = stream

theorem ownHandles_of_empty {streams : Streams} (empty : streams.table = #[]) :
    streams.OwnHandles := by
  have unheld (stream : StreamId) (handle : HandleId) : streams.handle stream ≠ .ok handle := by
    simp [Streams.handle, Streams.stream, empty]
  exact ⟨fun stream handle held => absurd held (unheld stream handle),
    fun stream _ handle held => absurd held (unheld stream handle)⟩

theorem handle_push (streams : Streams) (later : System) (path : String) (appends : Bool)
    (handle : HandleId) (stream : StreamId) :
    (Streams.mk later (streams.table.push (.file ⟨path, appends, some handle⟩))).handle stream =
      if stream.index = streams.table.size then .ok handle else streams.handle stream := by
  by_cases last : stream.index = streams.table.size
  · simp [Streams.handle, Streams.stream, last]
  · simp only [Streams.handle, Streams.stream, Array.getElem?_push, if_neg last]

/-- A file is opened under a handle that no stream has yet. -/
theorem OwnHandles.openFile {before : Streams} (own : before.OwnHandles) (path : String)
    (mode : FileMode) (access : FileAccess) :
    ((Streams.openFile path mode access).run before).2.OwnHandles := by
  rw [run_openFile]
  split
  · exact own
  split
  · exact own
  obtain ⟨cause, failed⟩ | ⟨file, after, opened, handles, -⟩ :=
    System.run_openFile_cases before.system path (mode.flags access)
  · rw [failed]
    exact own
  rw [opened]
  have kept {handle : HandleId} {known : OpenFile} (here : before.system.Has handle known) :
      after.Has handle known := by
    obtain ⟨bound, found⟩ := Array.getElem?_eq_some_iff.1 here
    rw [System.Has, handles, Array.getElem?_push_lt bound, found]
  have fresh (stream : StreamId) : before.handle stream ≠ .ok ⟨before.system.handles.size⟩ := by
    intro held
    obtain ⟨known, here⟩ := own.opened stream _ held
    exact absurd (Array.getElem?_eq_some_iff.1 here).1 (Nat.lt_irrefl _)
  constructor
  · intro stream handle held
    rw [handle_push] at held
    split at held
    · cases held
      have here := congrArg (·[before.system.handles.size]?) handles
      exact ⟨_, here.trans Array.getElem?_push_size⟩
    · obtain ⟨known, here⟩ := own.opened stream handle held
      exact ⟨known, kept here⟩
  · intro stream other handle held held'
    rw [handle_push] at held held'
    split at held <;> split at held'
    case isTrue.isTrue first second => exact congrArg StreamId.mk (second.trans first.symm)
    case isTrue.isFalse =>
      cases held
      exact absurd held' (fresh other)
    case isFalse.isTrue =>
      cases held'
      exact absurd held (fresh stream)
    case isFalse.isFalse => exact own.own stream other handle held held'

/-- A stream with a handle is an open file, and can be sought. -/
theorem file_of_handle {streams : Streams} {stream : StreamId} {handle : HandleId}
    (held : streams.handle stream = .ok handle) :
    ∃ file : FileStream, streams.stream stream = .file file ∧ file.handle = some handle ∧
      streams.isClosed stream = false ∧ streams.canSeek stream = true := by
  unfold Streams.handle at held
  split at held <;> cases held
  rename_i known
  refine ⟨_, known, rfl, ?_, ?_⟩
  · rw [Streams.isClosed, known]
    rfl
  · rw [Streams.canSeek, known]
    rfl

end Streams

/-- A stream that holds no handle. -/
def Stream.Unheld (known : Stream) : Prop :=
  ∀ file : FileStream, known = .file file → file.handle = none

theorem Stream.unheld_close (known : Stream) : known.close.Unheld := by
  rintro file closed
  cases known <;> cases closed
  rfl

/-- Requests that put no handle into the table but by opening a file, and changes to the system that
take no handle from it. -/
def StreamRequest.Fair : StreamRequest → Prop
  | add added => added.Unheld
  | system change => ∀ count before, Posix.System.Given count before → (change before).Given count
  | openFile .. | read .. | write .. | available _ | seek .. | position _ | flush _ | fileSize _
  | setFileSize .. | sync _ | close _ => True

namespace Streams

open GuestBridge.Action

/-- Streams that hold no handles but those that they held at first, over a system that has given out
as many or more. -/
structure Within (first streams : Streams) : Prop where
  held : ∀ (stream : StreamId) (handle : HandleId), streams.handle stream = .ok handle →
    first.handle stream = .ok handle
  given : streams.system.Given first.system.handles.size

variable {first streams : Streams} {failure result value : Type}

theorem OwnHandles.of_within (own : first.OwnHandles) (within : first.Within streams) :
    streams.OwnHandles where
  opened stream handle held := by
    obtain ⟨known, here⟩ := own.opened stream handle (within.held stream handle held)
    have bound := (Array.getElem?_eq_some_iff.1 here).1
    exact ⟨_, Array.getElem?_eq_getElem (Nat.lt_of_lt_of_le bound within.given)⟩
  own stream other handle held held' :=
    own.own stream other handle (within.held _ _ held) (within.held _ _ held')

theorem within_refl (streams : Streams) : streams.Within streams :=
  ⟨fun _ _ held => held, Nat.le_refl _⟩

theorem Within.setStream (within : first.Within streams) (other : StreamId) {updated : Stream}
    (unheld : updated.Unheld) : first.Within (streams.setStream other updated) := by
  refine ⟨fun stream handle held => ?_, within.given⟩
  obtain ⟨file, known, holding, -⟩ := file_of_handle held
  rw [Streams.stream, Streams.setStream, Array.getElem?_setIfInBounds] at known
  split at known
  · split at known
    · cases holding.symm.trans (unheld file known)
    · cases known
  · exact within.held stream handle (handle_of_file known holding)

theorem Within.add (within : first.Within streams) {added : Stream} (unheld : added.Unheld) :
    first.Within (streams.add added).2 := by
  refine ⟨fun stream handle held => ?_, within.given⟩
  obtain ⟨file, known, holding, -⟩ := file_of_handle held
  rw [Streams.stream, Streams.add, Array.getElem?_push] at known
  split at known
  · cases holding.symm.trans (unheld file known)
  · exact within.held stream handle (handle_of_file known holding)

theorem within_onSystem {action : Action System failure result}
    (gives : ∀ count, action.Keeps (System.Given count)) :
    (onSystem action).Keeps first.Within :=
  fun streams within => ⟨within.held, gives _ streams.system within.given⟩

theorem within_onHandle (file : StreamId) (answer : result → value)
    {operation : HandleId → Action System SystemError result}
    (gives : ∀ handle count, (operation handle).Keeps (System.Given count)) :
    Keeps first.Within (do
      return answer (← onSystem (operation (← (← get).handle file))) :
        Action Streams SystemError value) :=
  .bind (.of_readsOnly .get) fun _ => .bind (.of_readsOnly (.liftM _)) fun _ =>
    .bind (within_onSystem (gives _)) fun _ => .of_readsOnly (.pure _)

theorem within_readInto (stream : StreamId) (buffer : Bytes) :
    (readInto stream buffer).Keeps first.Within := by
  refine .bind (.of_readsOnly .get) fun streams => ?_
  split
  case h_1 => exact within_onHandle stream _ fun _ _ => System.given_read _ _
  case h_2 pipe _ =>
    refine .check fun _ => .bind (.modify fun _ within => ?_) fun _ => .of_readsOnly (.pure _)
    exact within.setStream stream nofun
  case h_3 => exact .of_readsOnly (.pure _)

theorem within_write (stream : StreamId) (bytes : Bytes) :
    (write stream bytes).Keeps first.Within := by
  refine .bind (.of_readsOnly .get) fun streams => ?_
  split
  case h_1 => exact within_onHandle stream _ fun _ _ => System.given_writeAll _ _ _
  case h_2 pipe _ =>
    refine .check fun _ => .bind (.modify fun _ within => ?_) fun _ => .of_readsOnly (.pure _)
    exact within.setStream stream nofun
  case h_3 => exact .of_readsOnly (.pure _)

theorem within_seek (stream : StreamId) (target : UInt64) :
    (seek stream target).Keeps first.Within := by
  refine .bind (.of_readsOnly .get) fun streams => ?_
  split
  case h_1 => exact within_onHandle stream _ fun _ _ => System.given_seek _ _
  case h_2 => exact .of_readsOnly (.throw _)
  case h_3 => exact .of_readsOnly (.liftM _)

theorem within_setFileSize (file : StreamId) (size : Nat) :
    (setFileSize file size).Keeps first.Within :=
  .bind (.of_readsOnly .get) fun _ => .bind (.of_readsOnly (.liftM _)) fun _ =>
    within_onSystem fun _ => System.given_setSize _ _

theorem readsOnly_fileSize (file : StreamId) : (fileSize file).ReadsOnly :=
  .bind .get fun _ => .bind (.liftM _) fun _ => .within (fun _ => rfl) (System.readsOnly_size _)

/-- Handles stay apart under one request: an opening gives out the next one, and others none. -/
theorem OwnHandles.respond (own : streams.OwnHandles) {request : StreamRequest}
    (fair : request.Fair) : (streams.respond request).OwnHandles := by
  have same := within_refl streams
  cases request with
  | openFile path mode access => exact own.openFile path mode access
  | add added => exact own.of_within (same.add fair)
  | read stream buffer => exact own.of_within (within_readInto stream buffer streams same)
  | write stream bytes => exact own.of_within (within_write stream bytes streams same)
  | seek stream target => exact own.of_within (within_seek stream target streams same)
  | setFileSize file size => exact own.of_within (within_setFileSize file size streams same)
  | fileSize file =>
    rw [Streams.respond, readsOnly_fileSize]
    exact own
  | position stream =>
    rw [Streams.respond, readsOnly_position]
    exact own
  | flush stream =>
    rw [Streams.respond, readsOnly_flush]
    exact own
  | close stream => exact own.of_within (same.setStream stream (Stream.unheld_close _))
  | system change => exact own.of_within ⟨fun _ _ held => held, fair _ _ (Nat.le_refl _)⟩
  | available | sync => exact own

/-- In whatever order streams are opened and used, their handles stay apart. -/
theorem ownHandles_after {start : Streams} (own : start.OwnHandles)
    (history : List StreamRequest) (fair : ∀ request ∈ history, request.Fair) :
    (start.after history).OwnHandles := by
  induction history generalizing start with
  | nil => exact own
  | cons request rest ih =>
    have next := own.respond (fair request List.mem_cons_self)
    exact ih next fun later member => fair later (List.mem_cons_of_mem _ member)

end Streams

end GuestBridge
