import GuestBridge.Proofs.PathWalks
import GuestBridge.Proofs.StreamHistories
import GuestBridge.Proofs.Transfers

/-!
Opening files. An opening that fails changes nothing at all. One that succeeds changes no file but
the one that the path leads to; what this file holds afterwards follows from the mode and from what
there was before. Whether a file may be created is asked before it is known whether one has to be,
so a file that is there is not opened for reading either when it could have been missing. A
directory can be opened too, to look only, and that changes no file.
-/
namespace GuestBridge

open Posix

namespace Posix

namespace System

/-- The file that a path leads to. -/
def fileAt? (system : System) (path : String) : Option FileId :=
  match system.tree.find path .look with
  | .ok (.file file) => some file
  | _ => none

/-- The bytes of the file that a path leads to. -/
def bytesAt? (system : System) (path : String) : Option Bytes :=
  (system.contentAt? path).map Content.toList

/-- The path leads to the file. All other files hold what they held, and paths that lead to no file,
or to another one than this, are as they were. -/
structure Opened (before : System) (path : String) (file : FileId) (after : System) : Prop where
  found : after.fileAt? path = some file
  others : ∀ other ≠ file, after.content other = before.content other
  remains : ∀ place known, before.fileAt? place = some known → after.fileAt? place = some known
  elsewhere : ∀ place, after.fileAt? place ≠ some file →
    after.fileAt? place = before.fileAt? place

/-- The path leads to a directory, and whoever opened it has a file of its own in hand. All other
files hold what they held, and all paths are as they were. -/
structure Entered (before : System) (path : String) (file : FileId) (after : System) : Prop where
  found : ∃ directory, before.tree.find path .look = .ok (.directory directory)
  new : file.index = before.files.size
  others : ∀ other ≠ file, after.content other = before.content other
  tree : after.tree = before.tree

/-- A path to a file that may be read and written, or to a free name in a directory where files can
be made. -/
structure Reachable (system : System) (path : String) : Prop where
  valid : '\x00' ∉ path.toList
  leads : (∃ file, system.tree.find path .look = .ok (.file file) ∧
      (system.stored file).readable = true ∧ (system.stored file).writable = true) ∨
    ∃ directory name, system.tree.find path .look = .ok (.missing directory name) ∧
      (system.tree.directory directory).writable = true

variable {system before after : System} {path name : String} {flags : OpenFlags}
  {file known : FileId} {directory : DirectoryId}

theorem fileAt?_of_find {purpose : Purpose}
    (leads : system.tree.find path purpose = .ok (.file file)) :
    system.fileAt? path = some file := by
  rw [fileAt?, Tree.find_look leads]

theorem fileAt?_of_missing {purpose : Purpose}
    (leads : system.tree.find path purpose = .ok (.missing directory name)) :
    system.fileAt? path = none := by
  rw [fileAt?, Tree.find_look leads]

theorem bytesAt?_eq (system : System) (path : String) :
    system.bytesAt? path = (system.fileAt? path).map fun file => (system.content file).toList := by
  unfold bytesAt? contentAt? fileAt?
  rcases system.tree.find path .look with cause | (file | ⟨directory, name⟩ | directory) <;> rfl

theorem Opened.bytesAt? (opened : before.Opened path file after) :
    after.bytesAt? path = some (after.content file).toList := by
  rw [bytesAt?_eq, opened.found]
  rfl

/-- A path that is as it was leads to what there was, unless it leads to the file that is not. -/
theorem bytesAt?_congr (others : ∀ other ≠ file, after.content other = before.content other)
    {place : String} (same : after.fileAt? place = before.fileAt? place)
    (different : after.fileAt? place ≠ some file) :
    after.bytesAt? place = before.bytesAt? place := by
  rw [bytesAt?_eq, bytesAt?_eq, ← same]
  cases found : after.fileAt? place with
  | none => rfl
  | some other =>
    have apart : other ≠ file := fun same => different (found.trans (congrArg some same))
    rw [Option.map_some, Option.map_some, others other apart]

/-- Everywhere else there is what there was. -/
theorem Opened.bytesAt?_elsewhere (opened : before.Opened path file after) {place : String}
    (different : after.fileAt? place ≠ some file) :
    after.bytesAt? place = before.bytesAt? place :=
  bytesAt?_congr opened.others (opened.elsewhere place different) different

theorem Entered.bytesAt?_elsewhere (entered : before.Entered path file after) {place : String}
    (different : after.fileAt? place ≠ some file) :
    after.bytesAt? place = before.bytesAt? place := by
  have same : after.fileAt? place = before.fileAt? place := by
    rw [fileAt?, fileAt?, entered.tree]
  exact bytesAt?_congr entered.others same different

/-- The system with an opened file emptied, if that is asked for. -/
def emptied (system : System) (flags : OpenFlags) (file : FileId) : System :=
  if flags.truncates then system.resizeFile file 0 else system

theorem fileAt?_emptied (system : System) (flags : OpenFlags) (file : FileId) (place : String) :
    (system.emptied flags file).fileAt? place = system.fileAt? place := by
  unfold emptied
  split <;> rfl

theorem content_resizeFile_zero (system : System) (file : FileId) :
    ((system.resizeFile file 0).content file).toList = [] := by
  rw [content, stored, resizeFile, changeFile, Array.getElem?_modify, if_pos rfl]
  cases system.files[file.index]? with
  | none => rfl
  | some stored =>
    change ((StoredFile.content _).resize 0).toList = []
    rw [Content.toList_resize, Bytes.resize, List.take_zero, Nat.zero_sub]
    rfl

theorem content_resizeFile_ne {other : FileId} (different : other ≠ file) (size : Nat) :
    (system.resizeFile file size).content other = system.content other := by
  have apart : file.index ≠ other.index := fun same => different (congrArg FileId.mk same.symm)
  rw [content, stored, resizeFile, changeFile, Array.getElem?_modify, if_neg apart]
  rfl

theorem content_emptied (system : System) (flags : OpenFlags) (file : FileId) :
    ((system.emptied flags file).content file).toList =
      if flags.truncates then [] else (system.content file).toList := by
  unfold emptied
  split
  · exact content_resizeFile_zero system file
  · rfl

/-- The system after a file that was there has been opened. -/
def reopened (system : System) (flags : OpenFlags) (file : FileId) : System :=
  ((system.emptied flags file).openHandle flags file).2

/-- The system after a file has been created and opened. -/
def createdFor (system : System) (flags : OpenFlags) (directory : DirectoryId) (name : String) :
    System :=
  ((system.create directory name).2.openHandle flags (system.create directory name).1).2

theorem opened_reopened (leads : system.fileAt? path = some file) (flags : OpenFlags) :
    system.Opened path file (system.reopened flags file) where
  found := (fileAt?_emptied system flags file path).trans leads
  others other different := by
    change (system.emptied flags file).content other = _
    unfold emptied
    split
    · exact content_resizeFile_ne different 0
    · rfl
  remains place known found := (fileAt?_emptied system flags file place).trans found
  elsewhere place _ := fileAt?_emptied system flags file place

theorem content_create_self (system : System) (directory : DirectoryId) (name : String) :
    ((system.create directory name).2.content (system.create directory name).1).toList = [] := by
  rw [content, stored, create, Array.getElem?_push_size]
  rfl

theorem content_create_ne {other : FileId} (different : other ≠ (system.create directory name).1) :
    (system.create directory name).2.content other = system.content other := by
  have apart : other.index ≠ system.files.size := fun same => different (congrArg FileId.mk same)
  rw [content, stored, create, Array.getElem?_push, if_neg apart]
  rfl

theorem opened_createdFor {purpose : Purpose}
    (leads : system.tree.find path purpose = .ok (.missing directory name))
    (writable : (system.tree.directory directory).writable = true) (flags : OpenFlags) :
    system.Opened path (system.create directory name).1
      (system.createdFor flags directory name) := by
  let file : FileId := (system.create directory name).1
  let after := system.createdFor flags directory name
  have grown (place : String) : Path.Grown directory name file (system.tree.find place .look)
      (after.tree.find place .look) :=
    Tree.grown_find (Tree.present_of_writable writable) (Tree.free_of_find leads) place
  refine ⟨?_, fun other different => content_create_ne different, fun place known found => ?_,
    fun place different => ?_⟩
  · have here := grown path
    rw [Tree.find_look leads] at here
    rw [fileAt?]
    change Path.Grown directory name file _ (after.tree.find path .look) at here
    generalize after.tree.find path .look = ending at here ⊢
    cases here with
    | made => rfl
    | same elsewhere => exact absurd rfl elsewhere
  · have there := grown place
    rw [fileAt?] at found ⊢
    generalize system.tree.find place .look = former at there found
    generalize after.tree.find place .look = ending at there ⊢
    cases there with
    | made => cases found
    | same => exact found
    | failed => cases found
  · have there := grown place
    rw [fileAt?] at different
    rw [fileAt?, fileAt?]
    generalize system.tree.find place .look = former at there ⊢
    generalize after.tree.find place .look = ending at there different ⊢
    cases there with
    | made => exact absurd rfl different
    | same => rfl
    | failed => rfl

theorem run_openFile_of_file
    (leads : system.tree.find path flags.purpose = .ok (.file file)) :
    (openFile path flags).run system =
      if flags.mustCreate then (.error .fileExists, system)
      else if flags.allowedBy (system.stored file) then
        (.ok ⟨system.handles.size⟩, system.reopened flags file)
      else (.error .accessDenied, system) := by
  simp only [openFile, Action.run_bind, Action.run_get, leads, Action.run_liftM]
  split
  · rfl
  by_cases allowed : flags.allowedBy (system.stored file) = true
  · simp only [allowed, Bool.not_true, Bool.false_eq_true, if_false, if_true]
    unfold reopened emptied
    split <;> rfl
  · simp only [allowed, Bool.not_false, if_true, Bool.false_eq_true, if_false]
    rfl

theorem run_openFile_of_missing
    (leads : system.tree.find path flags.purpose = .ok (.missing directory name)) :
    (openFile path flags).run system =
      if flags.purpose = .look then (.error .noSuchFile, system)
      else if (system.tree.directory directory).writable then
        (.ok ⟨system.handles.size⟩, system.createdFor flags directory name)
      else (.error .accessDenied, system) := by
  simp only [openFile, Action.run_bind, Action.run_get, leads, Action.run_liftM]
  split
  · rfl
  by_cases writable : (system.tree.directory directory).writable = true
  · simp only [writable, Bool.not_true, Bool.false_eq_true, if_false, if_true]
    rfl
  · simp only [writable, Bool.not_false, if_true, Bool.false_eq_true, if_false]
    rfl

/-- Whether a directory can be opened in this way. -/
def OpenFlags.onlyLooks (flags : OpenFlags) : Bool :=
  !flags.mustCreate && !(flags.writable || flags.creates || flags.truncates)

theorem entered_openDirectory
    (leads : system.tree.find path .look = .ok (.directory directory)) (flags : OpenFlags) :
    system.Entered path ⟨system.files.size⟩ (system.openDirectory flags).2 where
  found := ⟨directory, leads⟩
  new := rfl
  others other different := by
    have apart : other.index ≠ system.files.size := fun same => different (congrArg FileId.mk same)
    rw [content, stored, openDirectory, openHandle, Array.getElem?_push, if_neg apart]
    rfl
  tree := rfl

theorem run_openFile_of_directory
    (leads : system.tree.find path flags.purpose = .ok (.directory directory)) :
    (openFile path flags).run system =
      if flags.onlyLooks && (system.tree.directory directory).readable then
        (.ok ⟨system.handles.size⟩, (system.openDirectory flags).2)
      else if flags.mustCreate then (.error .fileExists, system)
      else if flags.onlyLooks then (.error .accessDenied, system)
      else (.error .isADirectory, system) := by
  simp only [openFile, Action.run_bind, Action.run_get, leads, Action.run_liftM]
  unfold OpenFlags.onlyLooks
  cases flags.mustCreate <;>
    cases flags.writable || flags.creates || flags.truncates <;>
      cases (system.tree.directory directory).readable <;> rfl

/-- What a file holds after it was opened, by what it held if it was there, or nothing if it is not
opened. -/
def OpenFlags.leaves (flags : OpenFlags) : Option Bytes → Option Bytes
  | some held => if flags.mustCreate then none else some (if flags.truncates then [] else held)
  | none => if flags.creates || flags.mustCreate then some [] else none

theorem leaves_reopened (leads : system.fileAt? path = some file)
    (once : flags.mustCreate = false) :
    flags.leaves (system.bytesAt? path) =
      some ((system.reopened flags file).content file).toList := by
  have content : ((system.reopened flags file).content file).toList = _ :=
    content_emptied system flags file
  rw [bytesAt?_eq, leads, content]
  simp [OpenFlags.leaves, once]

theorem creates_of_purpose (creates : flags.purpose ≠ .look) :
    (flags.creates || flags.mustCreate) = true := by
  unfold OpenFlags.purpose at creates
  cases fresh : flags.mustCreate <;> cases may : flags.creates <;> simp_all

theorem leaves_createdFor
    (leads : system.tree.find path flags.purpose = .ok (.missing directory name))
    (creates : flags.purpose ≠ .look) :
    flags.leaves (system.bytesAt? path) =
      some ((system.createdFor flags directory name).content
        (system.create directory name).1).toList := by
  have content : ((system.createdFor flags directory name).content
      (system.create directory name).1).toList = [] := content_create_self system directory name
  rw [bytesAt?_eq, fileAt?_of_missing leads, content]
  exact if_pos (creates_of_purpose creates)

/-- An opening fails with nothing changed, or opens a file or a directory under the next handle,
with its cursor at the start. -/
theorem run_openFile_cases (system : System) (path : String) (flags : OpenFlags) :
    (∃ cause, (openFile path flags).run system = (.error cause, system)) ∨
    ∃ file after, (openFile path flags).run system = (.ok ⟨system.handles.size⟩, after) ∧
      after.handles = system.handles.push
        ⟨file, 0, flags.readable, flags.writable, flags.appends⟩ ∧
      (system.Opened path file after ∧
          flags.leaves (system.bytesAt? path) = some (after.content file).toList ∨
        flags.onlyLooks = true ∧ system.Entered path file after) := by
  cases leads : system.tree.find path flags.purpose with
  | error cause =>
    refine .inl ⟨cause, ?_⟩
    simp only [openFile, Action.run_bind, Action.run_get, leads, Action.run_liftM]
  | ok destination =>
    cases destination with
    | directory directory =>
      have ran := run_openFile_of_directory leads
      by_cases enters : (flags.onlyLooks && (system.tree.directory directory).readable) = true
      · have looks : flags.onlyLooks = true := (Bool.and_eq_true_iff.1 enters).1
        have entered := entered_openDirectory (Tree.find_look leads) flags
        refine .inr ⟨_, _, ?_, rfl, .inr ⟨looks, entered⟩⟩
        rw [ran, if_pos enters]
      · rw [ran, if_neg enters]
        split
        · exact .inl ⟨_, rfl⟩
        · split <;> exact .inl ⟨_, rfl⟩
    | file file =>
      have ran := run_openFile_of_file leads
      by_cases once : flags.mustCreate = true
      · exact .inl ⟨_, by rw [ran, if_pos once]⟩
      by_cases allowed : flags.allowedBy (system.stored file) = true
      · have there := fileAt?_of_find leads
        refine .inr ⟨file, _, ?_, ?_, .inl ⟨opened_reopened there flags,
          leaves_reopened there (eq_false_of_ne_true once)⟩⟩
        · rw [ran, if_neg once, if_pos allowed]
        · unfold reopened emptied
          split <;> rfl
      · exact .inl ⟨_, by rw [ran, if_neg once, if_neg allowed]⟩
    | missing directory name =>
      have ran := run_openFile_of_missing leads
      by_cases creates : flags.purpose = .look
      · exact .inl ⟨_, by rw [ran, if_pos creates]⟩
      by_cases writable : (system.tree.directory directory).writable = true
      · refine .inr ⟨_, _, ?_, rfl, .inl ⟨opened_createdFor leads writable flags,
          leaves_createdFor leads creates⟩⟩
        rw [ran, if_neg creates, if_pos writable]
      · exact .inl ⟨_, by rw [ran, if_neg creates, if_neg writable]⟩

/-- Whether a path can be opened in this way: it leads to a file that may be used so, unless the
file has to be new, to a free name in a directory where files can be made, or to a directory that is
opened to look only. -/
def Admits (system : System) (path : String) (flags : OpenFlags) : Prop :=
  match system.tree.find path flags.purpose with
  | .ok (.file file) =>
    flags.mustCreate = false ∧ flags.allowedBy (system.stored file) = true
  | .ok (.missing directory _) =>
    flags.purpose ≠ .look ∧ (system.tree.directory directory).writable = true
  | .ok (.directory directory) =>
    flags.onlyLooks = true ∧ (system.tree.directory directory).readable = true
  | .error _ => False

theorem isOk_openFile_iff :
    ((openFile path flags).run system).1.isOk = true ↔ system.Admits path flags := by
  unfold Admits
  split
  case h_1 file leads =>
    rw [run_openFile_of_file leads]
    cases flags.mustCreate <;> cases flags.allowedBy (system.stored file) <;> simp [Except.isOk,
      Except.toBool]
  case h_2 directory name leads =>
    rw [run_openFile_of_missing leads]
    by_cases creates : flags.purpose = .look <;>
      cases (system.tree.directory directory).writable <;> simp [creates, Except.isOk,
        Except.toBool]
  case h_3 directory leads =>
    rw [run_openFile_of_directory leads]
    cases flags.onlyLooks <;> cases (system.tree.directory directory).readable <;>
      cases flags.mustCreate <;> simp [Except.isOk, Except.toBool]
  case h_4 leads =>
    simp only [openFile, Action.run_bind, Action.run_get, leads, Action.run_liftM]
    simp [Except.isOk, Except.toBool]

end System

end Posix

/-- What a file holds after it was opened in this mode, by what it held if it was there, or nothing
if it is not opened. -/
def FileMode.leaves : FileMode → Option Bytes → Option Bytes
  | createNew, none => some []
  | createNew, some _ => none
  | create, _ => some []
  | openExisting, held? => held?
  | truncateExisting, held? => held?.map fun _ => []
  | openOrCreate, held? | append, held? => some (held?.getD [])

/-- Whether a file can be opened in this mode with this access, wherever it is. -/
def FileMode.permits : FileMode → FileAccess → Bool
  | openExisting, _ => true
  | append, access => !access.canRead
  | createNew, access | create, access | openOrCreate, access | truncateExisting, access =>
    access.canWrite

theorem FileMode.leaves_flags (mode : FileMode) (access : FileAccess) (held? : Option Bytes) :
    (mode.flags access).leaves held? = mode.leaves held? := by
  cases mode <;> cases held? <;> rfl

theorem FileMode.unread_of_permits {mode : FileMode} {access : FileAccess}
    (permitted : mode.permits access = true) : ¬ (mode = .append ∧ access.canRead = true) := by
  rintro ⟨rfl, reads⟩
  simp [permits, reads] at permitted

theorem FileMode.openingFault?_of_permits {mode : FileMode} {access : FileAccess} {path : String}
    (permitted : mode.permits access = true) (valid : '\x00' ∉ path.toList) :
    openingFault? path (mode.flags access) = none := by
  rw [openingFault?, if_neg valid, if_neg]
  cases mode with
  | openExisting => simp [flags]
  | append =>
    cases access <;> simp_all [flags, permits, FileAccess.canRead, FileAccess.canWrite]
  | createNew | create | openOrCreate | truncateExisting => simp_all [flags, permits]

/-- What a handle is allowed does not depend on the mode but for appending. -/
theorem FileMode.flags_allow (mode : FileMode) (access : FileAccess) :
    (mode.flags access).readable = access.canRead ∧
      (mode.flags access).writable = access.canWrite ∧
      (mode.flags access).appends = (mode == .append) := by
  cases mode <;> exact ⟨rfl, rfl, rfl⟩

namespace Streams

/-- A new stream on the file that a path leads to. It is at the start of the file, and what the file
holds is what the mode leaves of what was there before. -/
structure Opens (before : Streams) (path : String) (mode : FileMode) (access : FileAccess)
    (stream : StreamId) (after : Streams) (file : FileId) (handle : HandleId) : Prop where
  permitted : mode = .append → access.canRead = false
  system : before.system.Opened path file after.system
  content : mode.leaves (before.system.bytesAt? path) = some (after.system.content file).toList
  added : after.Holds stream (.file ⟨path, mode == .append, some handle⟩)
  entry : after.system.handles[handle.index]? =
    some ⟨file, 0, access.canRead, access.canWrite, mode == .append⟩
  start : ((Streams.position stream).run after).1 = .ok 0

/-- A new stream on the directory that a path leads to. -/
structure Enters (before : Streams) (path : String) (mode : FileMode) (access : FileAccess)
    (stream : StreamId) (after : Streams) (file : FileId) (handle : HandleId) : Prop where
  looks : mode = .openExisting ∧ access = .read
  system : before.system.Entered path file after.system
  added : after.Holds stream (.file ⟨path, false, some handle⟩)
  entry : after.system.handles[handle.index]? = some ⟨file, 0, true, false, false⟩
  start : ((Streams.position stream).run after).1 = .ok 0

variable {before : Streams} {path : String} {mode : FileMode} {access : FileAccess}

theorem run_openFile (before : Streams) (path : String) (mode : FileMode) (access : FileAccess) :
    (openFile path mode access).run before =
      if mode = .append ∧ access.canRead then
        (.error (.io "Append access can be requested only in write-only mode." none), before)
      else match openingFault? path (mode.flags access) with
        | some cause => (.error (.io (path ++ " (" ++ cause.message ++ ")") (some cause)), before)
        | none =>
          match (System.openFile path (mode.flags access)).run before.system with
          | (.error cause, system) =>
            (.error (.io (path ++ " (" ++ cause.message ++ ")") (some cause)),
              { before with system })
          | (.ok handle, system) =>
            (.ok ⟨before.table.size⟩,
              { system
                table := before.table.push (.file ⟨path, mode == .append, some handle⟩) }) := by
  unfold openFile
  split
  · rfl
  rw [Action.run_bind, Action.run_mapFailure, openHandle]
  cases openingFault? path (mode.flags access) with
  | some cause => rfl
  | none =>
    simp only [onSystem, Action.run_within]
    rcases (System.openFile path (mode.flags access)).run before.system with
      ⟨cause | handle, system⟩ <;> rfl

/-- Only one way to open a file is for looking only. -/
theorem looks_of_onlyLooks (looks : (mode.flags access).onlyLooks = true)
    (valid : openingFault? path (mode.flags access) = none) :
    mode = .openExisting ∧ access = .read := by
  cases mode <;> cases access <;> simp_all [System.OpenFlags.onlyLooks, FileMode.flags,
    FileAccess.canRead, FileAccess.canWrite]

theorem opens_of_run {system : System} {handle : HandleId}
    (permitted : ¬ (mode = .append ∧ access.canRead = true))
    (valid : openingFault? path (mode.flags access) = none)
    (ran : (System.openFile path (mode.flags access)).run before.system = (.ok handle, system)) :
    let after : Streams :=
      { system, table := before.table.push (.file ⟨path, mode == .append, some handle⟩) }
    ∃ file, before.Opens path mode access ⟨before.table.size⟩ after file handle ∨
      before.Enters path mode access ⟨before.table.size⟩ after file handle := by
  obtain ⟨cause, failed⟩ | ⟨file, after, opened, handles, leads⟩ :=
    System.run_openFile_cases before.system path (mode.flags access)
  · rw [failed] at ran
    cases ran
  rw [opened] at ran
  obtain ⟨⟨⟩, rfl⟩ := Prod.mk.inj ran
  obtain ⟨readable, writable, appends⟩ := mode.flags_allow access
  have entry : after.handles[before.system.handles.size]? =
      some ⟨file, 0, access.canRead, access.canWrite, mode == .append⟩ := by
    rw [handles, Array.getElem?_push_size, readable, writable, appends]
  let new : Stream := .file ⟨path, mode == .append, some ⟨before.system.handles.size⟩⟩
  have added : Holds ⟨before.table.size⟩ new { system := after, table := before.table.push new } :=
    Array.getElem?_push_size
  have start := congrArg Prod.fst (run_position_of_file added.stream_eq rfl entry)
  refine ⟨file, ?_⟩
  rcases leads with ⟨system, content⟩ | ⟨looks, entered⟩
  · refine .inl ⟨fun append => ?_, system, ?_, added, entry, start⟩
    · simpa [append] using permitted
    · rw [← FileMode.leaves_flags]
      exact content
  · obtain ⟨rfl, rfl⟩ := looks_of_onlyLooks looks valid
    exact .inr ⟨⟨rfl, rfl⟩, entered, added, entry, start⟩

theorem openFile_cases (before : Streams) (path : String) (mode : FileMode)
    (access : FileAccess) :
    (∃ fault, (openFile path mode access).run before = (.error fault, before)) ∨
    ∃ stream after file handle, (openFile path mode access).run before = (.ok stream, after) ∧
      (before.Opens path mode access stream after file handle ∨
        before.Enters path mode access stream after file handle) := by
  rw [run_openFile]
  by_cases refused : mode = .append ∧ access.canRead = true
  · exact .inl ⟨_, if_pos refused⟩
  rw [if_neg refused]
  cases valid : openingFault? path (mode.flags access) with
  | some cause => exact .inl ⟨_, rfl⟩
  | none =>
    obtain ⟨cause, failed⟩ | ⟨file, after, opened, -⟩ :=
      System.run_openFile_cases before.system path (mode.flags access)
    · rw [failed]
      exact .inl ⟨_, rfl⟩
    · obtain ⟨file, opens⟩ := opens_of_run refused valid opened
      rw [opened]
      exact .inr ⟨_, _, file, _, rfl, opens⟩

theorem run_openFile_of_forbidden (before : Streams) (path : String)
    (forbidden : mode.permits access = false) :
    ∃ fault, (openFile path mode access).run before = (.error fault, before) := by
  rw [run_openFile]
  by_cases refused : mode = .append ∧ access.canRead = true
  · exact ⟨_, if_pos refused⟩
  rw [if_neg refused]
  cases found : openingFault? path (mode.flags access) with
  | some cause => exact ⟨_, rfl⟩
  | none =>
    unfold openingFault? at found
    split at found
    · cases found
    rw [ite_eq_right_iff] at found
    cases mode <;> simp_all [FileMode.flags, FileMode.permits]

/-- The mode and the access decide about an opening, together with what the path leads to. -/
theorem isOk_openFile_iff :
    ((openFile path mode access).run before).1.isOk = true ↔
      mode.permits access = true ∧ '\x00' ∉ path.toList ∧
        before.system.Admits path (mode.flags access) := by
  by_cases permitted : mode.permits access = true
  case neg =>
    obtain ⟨fault, failed⟩ := run_openFile_of_forbidden before path
      (eq_false_of_ne_true permitted)
    simp [failed, permitted, Except.isOk, Except.toBool]
  rw [run_openFile, if_neg (mode.unread_of_permits permitted)]
  by_cases valid : '\x00' ∉ path.toList
  case neg =>
    rw [openingFault?, if_pos (Classical.not_not.1 valid)]
    simp [valid, Except.isOk, Except.toBool]
  rw [mode.openingFault?_of_permits permitted valid, ← System.isOk_openFile_iff]
  simp only [permitted, valid, true_and, not_false_eq_true]
  rcases (System.openFile path (mode.flags access)).run before.system with
    ⟨cause | handle, system⟩ <;> rfl

/-- An opening that fails leaves everything as it was. One that succeeds gives a stream on the file
that the path leads to, whose content follows from the mode and the content before, or on a
directory; of all files and paths the others are as they were. It succeeds if the mode permits the
access and the path can be opened so. -/
theorem opens_or_unchanged (before : Streams) (path : String) (mode : FileMode)
    (access : FileAccess) :
    (match (openFile path mode access).run before with
    | (.error _, after) => after = before
    | (.ok stream, after) =>
      ∃ file handle,
        (before.Opens path mode access stream after file handle ∨
          before.Enters path mode access stream after file handle) ∧
        ∀ place, after.system.fileAt? place ≠ some file →
          after.system.bytesAt? place = before.system.bytesAt? place) ∧
    (((openFile path mode access).run before).1.isOk = true ↔
      mode.permits access = true ∧ '\x00' ∉ path.toList ∧
        before.system.Admits path (mode.flags access)) := by
  refine ⟨?_, isOk_openFile_iff⟩
  obtain ⟨fault, failed⟩ | ⟨stream, after, file, handle, opened, opens⟩ :=
    openFile_cases before path mode access
  · rw [failed]
  · rw [opened]
    refine ⟨file, handle, opens, fun place different => ?_⟩
    rcases opens with opens | enters
    · exact opens.system.bytesAt?_elsewhere different
    · exact enters.system.bytesAt?_elsewhere different

theorem admits_of_reachable (reachable : before.system.Reachable path) (access : FileAccess) :
    before.system.Admits path (FileMode.openOrCreate.flags access) := by
  have purpose : (FileMode.openOrCreate.flags access).purpose = .create := rfl
  rw [System.Admits, purpose]
  obtain ⟨file, leads, readable, writable⟩ | ⟨directory, name, leads, writable⟩ := reachable.leads
  · rw [Tree.find_create leads fun _ => nofun]
    refine ⟨rfl, ?_⟩
    simp [System.OpenFlags.allowedBy, readable, writable]
  · rw [Tree.find_create leads fun _ => nofun]
    exact ⟨nofun, writable⟩

/-- Where a path leads to a file that may be read and written, or to a free name in a directory
where files can be made, an opening that may create the file succeeds with write access: a file that
was there keeps its bytes, and one that was not is empty. Without write access it fails, be the file
there or not. -/
theorem opened_or_created {before : Streams} {path : String}
    (reachable : before.system.Reachable path) (access : FileAccess) :
    let ended := (openFile path .openOrCreate access).run before
    let refusal : SystemError := .described .invalidInput
      "creating or truncating a file requires write or append access"
    (access.canWrite = true → ∃ stream after file handle, ended = (.ok stream, after) ∧
      before.Opens path .openOrCreate access stream after file handle ∧
      after.system.bytesAt? path = some ((before.system.bytesAt? path).getD [])) ∧
    (access.canWrite = false →
      ended = (.error (.io (path ++ " (" ++ refusal.message ++ ")") (some refusal)), before)) := by
  intro ended refusal
  refine ⟨fun writes => ?_, fun reads => ?_⟩
  · have succeeds : ended.1.isOk = true :=
      isOk_openFile_iff.2 ⟨writes, reachable.valid, admits_of_reachable reachable access⟩
    obtain ⟨fault, failed⟩ | ⟨stream, after, file, handle, ran, opens⟩ :=
      openFile_cases before path .openOrCreate access
    · have failed : ended = _ := failed
      rw [failed] at succeeds
      cases succeeds
    · rcases opens with opens | enters
      · refine ⟨stream, after, file, handle, ran, opens, ?_⟩
        rw [opens.system.bytesAt?, ← opens.content]
        rfl
      · cases enters.looks.1
  · have unappended : ¬ (FileMode.openOrCreate = .append ∧ access.canRead = true) := by simp
    have refused : openingFault? path (FileMode.openOrCreate.flags access) = some refusal := by
      simp [openingFault?, FileMode.flags, reachable.valid, reads, refusal]
    have ran : ended = _ := run_openFile before path .openOrCreate access
    rw [ran, if_neg unappended, refused]

/-- A directory in one where no files can be made, with a file of two bytes and a link to it. -/
def shelf : Streams where
  system :=
    { files := #[{ content := .ofList [1, 2] }]
      tree :=
        { directories :=
            #[{ parent := ⟨0⟩, entries := [("d", .directory ⟨1⟩)], writable := false },
              { parent := ⟨0⟩, entries := [("a", .file ⟨0⟩), ("l", .link "a")] }] } }

theorem find_link : shelf.system.tree.find "/d/l" .look = .ok (.file ⟨0⟩) := rfl

theorem find_new : shelf.system.tree.find "/d/n" .look = .ok (.missing ⟨1⟩ "n") := rfl

theorem reachable_link : shelf.system.Reachable "/d/l" where
  valid := by decide
  leads := .inl ⟨⟨0⟩, find_link, rfl, rfl⟩

theorem reachable_new : shelf.system.Reachable "/d/n" where
  valid := by decide
  leads := .inr ⟨⟨1⟩, "n", find_new, rfl⟩

theorem opened_or_created_on_shelf :
    (∃ stream after, (openFile "/d/l" .openOrCreate .readWrite).run shelf = (.ok stream, after) ∧
      after.system.bytesAt? "/d/l" = some [1, 2]) ∧
    (∃ stream after, (openFile "/d/n" .openOrCreate .write).run shelf = (.ok stream, after) ∧
      after.system.bytesAt? "/d/n" = some []) := by
  have held : shelf.system.bytesAt? "/d/l" = some [1, 2] := by
    rw [System.bytesAt?_eq, System.fileAt?_of_find find_link]
    decide +kernel
  have free : shelf.system.bytesAt? "/d/n" = none := by
    rw [System.bytesAt?_eq, System.fileAt?_of_missing find_new]
    rfl
  obtain ⟨stream, after, -, -, ran, -, kept⟩ :=
    (opened_or_created reachable_link .readWrite).1 rfl
  obtain ⟨other, later, -, -, created, -, empty⟩ := (opened_or_created reachable_new .write).1 rfl
  rw [held] at kept
  rw [free] at empty
  exact ⟨⟨stream, after, ran, kept⟩, ⟨other, later, created, empty⟩⟩

/-- Both paths can be reached, and neither can be opened for reading in this mode. -/
theorem unreadable_on_shelf :
    shelf.system.Reachable "/d/l" ∧ shelf.system.Reachable "/d/n" ∧
      ((openFile "/d/l" .openOrCreate .read).run shelf).1.isOk = false ∧
      ((openFile "/d/n" .openOrCreate .read).run shelf).1.isOk = false :=
  ⟨reachable_link, reachable_new, by decide +kernel, by decide +kernel⟩

end Streams

end GuestBridge
