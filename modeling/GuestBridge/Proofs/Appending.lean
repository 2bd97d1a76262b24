import GuestBridge.Proofs.FileOpenings

/-!
Streams that are opened on one file for appending. Whatever is done with them, in whatever order,
the file grows at its end only, by all the bytes of each write that succeeds. A write on a closed
stream adds nothing. One that fails on an open stream can leave a part of its bytes: they go out in
one call after the other, and those that were taken before a call failed stay.
-/
namespace GuestBridge

open Posix

namespace Posix.System

/-- The file has grown at its end, and of the handles at most cursors have moved. -/
structure Extends (before after : System) (file : FileId) (bytes : Bytes) : Prop where
  content : (after.content file).toList = (before.content file).toList ++ bytes
  tree : after.tree = before.tree
  kernel : after.kernel = before.kernel
  size_files : before.files.size ≤ after.files.size
  handles : ∀ (handle : HandleId) (opened : OpenFile),
    before.handles[handle.index]? = some opened →
      ∃ cursor, after.handles[handle.index]? = some { opened with cursor }

variable {system : System} {handle : HandleId} {file : FileId} {opened : OpenFile}
  {bytes : Content}

theorem Extends.refl (system : System) (file : FileId) : system.Extends system file [] where
  content := (List.append_nil _).symm
  tree := rfl
  kernel := rfl
  size_files := Nat.le_refl _
  handles _ opened here := ⟨opened.cursor, here⟩

theorem Extends.trans {first second third : System} {early late : Bytes}
    (before : first.Extends second file early) (after : second.Extends third file late) :
    first.Extends third file (early ++ late) where
  content := by rw [after.content, before.content, List.append_assoc]
  tree := after.tree.trans before.tree
  kernel := after.kernel.trans before.kernel
  size_files := Nat.le_trans before.size_files after.size_files
  handles handle opened here := by
    obtain ⟨middle, reached⟩ := before.handles handle opened here
    exact after.handles handle { opened with cursor := middle } reached

/-- A cursor can move without anything else changing. -/
theorem extends_setCursor (system : System) (handle : HandleId) (file : FileId) (cursor : Nat) :
    system.Extends (system.setCursor handle cursor) file [] where
  content := (List.append_nil _).symm
  tree := rfl
  kernel := rfl
  size_files := Nat.le_refl _
  handles known opened here := by
    rw [setCursor, Array.getElem?_modify, here]
    split
    · exact ⟨cursor, rfl⟩
    · exact ⟨opened.cursor, rfl⟩

theorem extends_put (present : file.index < system.files.size) :
    system.Extends (system.put handle file (system.content file).size bytes) file bytes.toList where
  content := by rw [content_put_same present, ← Content.length_toList, Bytes.overwrite_at_end]
  tree := rfl
  kernel := rfl
  size_files := Nat.le_of_eq size_files_put.symm
  handles := (extends_setCursor (system.changeFile file _) handle file _).handles

theorem writeStart_of_appends (appends : opened.appends = true) :
    system.writeStart opened = (system.content opened.file).size := by
  rw [writeStart, if_pos appends]

/-- What one call takes comes behind the end. -/
theorem extends_took (appends : opened.appends = true)
    (present : opened.file.index < system.files.size) (taken : Nat) :
    system.Extends (system.took handle opened bytes taken) opened.file
      (bytes.toList.take taken) := by
  unfold took
  split
  case isTrue =>
    have grown : system.called.Extends
        (system.called.put handle opened.file (system.content opened.file).size (bytes.take taken))
        opened.file (bytes.take taken).toList := extends_put present
    rw [writeStart_of_appends appends, ← Content.toList_take]
    exact { grown with }
  case isFalse none =>
    rw [Nat.eq_zero_of_not_pos none, List.take_zero]
    exact { Extends.refl system.called opened.file with }

theorem calls_took (taken : Nat) :
    (system.took handle opened bytes taken).calls = system.calls + 1 := by
  unfold took
  split <;> rfl

/-- What becomes of so many bytes that are appended to a file. -/
def appending (system : System) (file : FileId) (limit ready : Nat) :
    Nat × Except SystemError Unit :=
  system.kernel.accept limit system.calls (system.content file).size ready

/-- The bytes that the calls take come behind the end, call by call. -/
theorem run_writeAll_appending (limit : Nat) (bytes : Content)
    (here : system.handles[handle.index]? = some opened) (writable : opened.writable = true)
    (appends : opened.appends = true) (present : opened.file.index < system.files.size) :
    ∃ after, (writeAll handle limit bytes).run system =
        ((system.appending opened.file limit bytes.size).2, after) ∧
      system.Extends after opened.file
        (bytes.toList.take (system.appending opened.file limit bytes.size).1) := by
  induction limit generalizing system bytes opened with
  | zero => exact ⟨system, rfl, .refl system opened.file⟩
  | succ limit ih =>
    unfold appending
    rw [Kernel.accept, writeAll]
    by_cases empty : bytes.size = 0
    · simp only [Content.isEmpty, empty, beq_self_eq_true, if_true]
      exact ⟨system, rfl, .refl system opened.file⟩
    rw [if_neg (by simpa [Content.isEmpty] using empty), if_neg empty, Action.run_bind,
      run_writeSome here writable, writeStart_of_appends appends]
    cases answered : system.kernel.writes system.calls (system.content opened.file).size
        bytes.size with
    | error cause => exact ⟨system.called, rfl, { Extends.refl system.called opened.file with }⟩
    | ok taken =>
      let middle := system.took handle opened bytes taken
      have grown : system.Extends middle opened.file (bytes.toList.take taken) :=
        extends_took appends present taken
      by_cases none : taken = 0
      · subst none
        exact ⟨middle, rfl, grown⟩
      obtain ⟨cursor, reached⟩ := grown.handles handle opened here
      obtain ⟨after, ran, rest⟩ := ih (bytes.drop taken) reached writable appends
        (Nat.lt_of_lt_of_le present grown.size_files)
      -- The next call starts where this one stopped, at the new end.
      have stop : (middle.content opened.file).size =
          (system.content opened.file).size + taken := by
        have total := congrArg List.length grown.content
        have bounded := system.kernel.writes_le answered
        rw [List.length_append, List.length_take, Content.length_toList, Content.length_toList,
          Content.length_toList, Nat.min_eq_left bounded] at total
        exact total
      have onward : middle.appending opened.file limit (bytes.drop taken).size =
          system.kernel.accept limit (system.calls + 1)
            ((system.content opened.file).size + taken) (bytes.size - taken) := by
        rw [appending, grown.kernel, calls_took, stop, Content.size_drop]
      dsimp only at ran rest ⊢
      rw [if_neg none, if_neg none]
      rw [onward] at ran rest
      refine ⟨after, ran, ?_⟩
      rw [List.take_add, ← Content.toList_drop]
      exact grown.trans rest

theorem extends_seek (system : System) (handle : HandleId) (target : Nat) (file : FileId) :
    system.Extends ((seek handle target).run system).2 file [] := by
  have unchanged := readsOnly_lookHandle handle system
  rw [seek, Action.run_bind]
  rcases ran : (lookHandle handle).run system with ⟨cause | opened, middle⟩ <;>
    rw [ran] at unchanged <;> subst unchanged
  · exact .refl middle file
  dsimp only
  split
  · exact .refl middle file
  rw [Action.run_bind, Action.run_get]
  dsimp only
  rw [Action.run_bind, Action.run_liftM]
  cases middle.kernel.seeks target with
  | error cause => exact .refl middle file
  | ok => exact extends_setCursor middle handle file target

theorem extends_openHandle (system : System) (flags : OpenFlags) (opened file : FileId) :
    system.Extends (system.openHandle flags opened).2 file [] where
  content := (List.append_nil _).symm
  tree := rfl
  kernel := rfl
  size_files := Nat.le_refl _
  handles known here present := by
    have bound := (Array.getElem?_eq_some_iff.1 present).1
    refine ⟨here.cursor, ?_⟩
    rw [openHandle, Array.getElem?_push_lt bound, ← Array.getElem?_eq_getElem bound, present]

theorem run_openFile_append {path : String}
    (leads : system.tree.find path .create = .ok (.file file)) :
    (openFile path (FileMode.append.flags .write)).run system =
      if (system.stored file).writable then
        (.ok ⟨system.handles.size⟩, (system.openHandle (FileMode.append.flags .write) file).2)
      else (.error .accessDenied, system) := by
  rw [run_openFile_of_file leads]
  cases allowed : (system.stored file).writable <;>
    simp [OpenFlags.allowedBy, FileMode.flags, FileAccess.canRead, FileAccess.canWrite, allowed]
  rfl

end Posix.System

/-- The streams that have been opened for appending, by their numbers, beside all streams. -/
structure Appenders where
  streams : Streams
  opened : List StreamId := []

namespace Appenders

inductive Request where
  | open (path : String)
  | write (number : Nat) (bytes : Bytes)
  | seek (number : Nat) (target : UInt64)
  | position (number : Nat)
  | sync (number : Nat)
  | close (number : Nat)
  deriving DecidableEq

/-- A request to one of the opened streams. Nothing happens under a number without a stream. -/
def onStream (now : Appenders) (number : Nat) (change : StreamId → Streams) : Appenders :=
  match now.opened[number]? with
  | some stream => { now with streams := change stream }
  | none => now

def respond (now : Appenders) : Request → Appenders
  | .open path =>
    match (Streams.openFile path .append .write).run now.streams with
    | (.ok stream, streams) => ⟨streams, now.opened ++ [stream]⟩
    | (.error _, streams) => { now with streams }
  | .write number bytes =>
    now.onStream number fun stream => ((Streams.write stream bytes).run now.streams).2
  | .seek number target =>
    now.onStream number fun stream => ((Streams.seek stream target).run now.streams).2
  | .position number =>
    now.onStream number fun stream => ((Streams.position stream).run now.streams).2
  | .sync _ => now
  | .close number => now.onStream number now.streams.close

def after (start : Appenders) (history : List Request) : Appenders := history.foldl respond start

def answer (now : Appenders) (stream : StreamId) (bytes : Bytes) : Except SystemError Nat :=
  ((Streams.write stream bytes).run now.streams).1

def bytes (now : Appenders) (file : FileId) : Bytes := (now.streams.system.content file).toList

def succeeding (now : Appenders) : Request → Bytes
  | .write number bytes =>
    match now.opened[number]? with
    | some stream => if (now.answer stream bytes).isOk then bytes else []
    | none => []
  | _ => []

/-- What becomes of a buffer that is written to the file: how many of its bytes are taken, and how
that ends. -/
def outcome (now : Appenders) (file : FileId) (bytes : Bytes) : Nat × Except SystemError Unit :=
  now.streams.system.appending file bytes.length bytes.length

/-- The buffer of a write that succeeds, and of one that fails on an open stream what was taken
before a call failed. -/
def left (file : FileId) (now : Appenders) : Request → Bytes
  | .write number bytes =>
    match now.opened[number]? with
    | some stream =>
      if (now.answer stream bytes).isOk then bytes
      else if now.streams.isClosed stream then []
      else bytes.take (now.outcome file bytes).1
    | none => []
  | _ => []

/-- What the requests of a history bring, one after the other. -/
def gathered (brings : Appenders → Request → Bytes) (now : Appenders) : List Request → Bytes
  | [] => []
  | request :: rest => brings now request ++ gathered brings (now.respond request) rest

/-- The stream was opened on the file for appending. -/
def AppendsTo (streams : Streams) (file : FileId) (stream : StreamId) : Prop :=
  ∃ known : FileStream, streams.table[stream.index]? = some (.file known) ∧
    ∀ handle ∈ known.handle, ∃ opened, streams.system.handles[handle.index]? = some opened ∧
      opened.file = file ∧ opened.writable = true ∧ opened.appends = true

/-- What all moments of a history have in common. -/
structure Serves (now : Appenders) (file : FileId) : Prop where
  present : file.index < now.streams.system.files.size
  appends : ∀ stream ∈ now.opened, AppendsTo now.streams file stream

/-- The later streams are the same, apart from closed ones, and of the system at most cursors have
moved and the file has grown. -/
structure Continues (before after : Streams) (file : FileId) (bytes : Bytes) : Prop where
  system : before.system.Extends after.system file bytes
  table : ∀ (stream : StreamId) (known : FileStream),
    before.table[stream.index]? = some (.file known) →
      after.table[stream.index]? = some (.file known) ∨
        after.table[stream.index]? = some (.file { known with handle := none })

theorem AppendsTo.continues {before later : Streams} {file : FileId} {stream : StreamId}
    {bytes : Bytes} (appends : AppendsTo before file stream)
    (continues : Continues before later file bytes) : AppendsTo later file stream := by
  obtain ⟨known, present, opens⟩ := appends
  rcases continues.table stream known present with same | closed
  · refine ⟨known, same, fun handle held => ?_⟩
    obtain ⟨opened, here, sameFile, writable, appends⟩ := opens handle held
    obtain ⟨cursor, reached⟩ := continues.system.handles handle opened here
    exact ⟨{ opened with cursor }, reached, sameFile, writable, appends⟩
  · exact ⟨{ known with handle := none }, closed, by rintro handle ⟨⟩⟩

theorem Continues.of_system {streams : Streams} {later : System} {file : FileId} {bytes : Bytes}
    (extends' : streams.system.Extends later file bytes) :
    Continues streams { streams with system := later } file bytes :=
  ⟨extends', fun _ _ here => .inl here⟩

variable {streams : Streams} {file : FileId} {stream : StreamId} {bytes : Bytes}
  {known : FileStream} {handle : HandleId}

theorem handle_of_table (here : streams.table[stream.index]? = some (.file known)) :
    streams.handle stream =
      match known.handle with
      | some handle => .ok handle
      | none => .error Stream.closedFault := by
  obtain ⟨path, appends, handle⟩ := known
  rw [Streams.handle, Streams.Holds.stream_eq here]
  cases handle <;> rfl

theorem run_write_of_closed (here : streams.table[stream.index]? = some (.file known))
    (closed : known.handle = none) :
    (Streams.write stream bytes).run streams = (.error Stream.closedFault, streams) := by
  simp [Streams.write, Action.run_bind, Streams.Holds.stream_eq here, handle_of_table here, closed]

theorem run_write_of_open {opened : OpenFile}
    (here : streams.table[stream.index]? = some (.file known)) (held : known.handle = some handle)
    (reached : streams.system.handles[handle.index]? = some opened)
    (writable : opened.writable = true) (appends : opened.appends = true)
    (present : opened.file.index < streams.system.files.size) :
    let taken := streams.system.appending opened.file bytes.length bytes.length
    ∃ after, (Streams.write stream bytes).run streams =
        (taken.2.map fun _ => bytes.length, after) ∧
      Continues streams after opened.file (bytes.take taken.1) := by
  have size : (Content.ofList bytes).size = bytes.length := by
    rw [← Content.length_toList, Content.toList_ofList]
  obtain ⟨after, ran, grown⟩ :=
    System.run_writeAll_appending bytes.length (.ofList bytes) reached writable appends present
  rw [Content.toList_ofList, size] at grown
  rw [size] at ran
  refine ⟨{ streams with system := after }, ?_, .of_system grown⟩
  have passedOn : (Streams.write stream bytes).run streams =
      (((System.writeAll handle bytes.length (.ofList bytes)).run streams.system).1.map
          fun _ => bytes.length,
        { streams with
          system :=
            ((System.writeAll handle bytes.length (.ofList bytes)).run streams.system).2 }) := by
    simp [Streams.write, Streams.Holds.stream_eq here, handle_of_table here, held, Action.run_bind,
      Streams.onSystem, Action.run_within, System.write, size]
  rw [passedOn, ran]

/-- An operation on the handle of a file stream, or nothing if the stream is closed. -/
theorem continues_onHandle {result other : Type} (answer : result → other)
    {operation : HandleId → Action System SystemError result}
    (moves : ∀ handle, streams.system.Extends ((operation handle).run streams.system).2 file [])
    (stream : StreamId) :
    Continues streams ((do
      return answer (← Streams.onSystem (operation (← (← get).handle stream))) :
        Action Streams SystemError other).run streams).2 file [] := by
  simp only [Action.run_bind, Action.run_get, Action.run_liftM]
  cases streams.handle stream with
  | error cause => exact .of_system (.refl streams.system file)
  | ok handle =>
    have moved := moves handle
    simp only [Streams.onSystem, Action.run_within]
    rcases ran : (operation handle).run streams.system with ⟨cause | value, later⟩ <;>
      rw [ran] at moved <;> exact .of_system moved

theorem continues_seek (here : streams.table[stream.index]? = some (.file known))
    (target : UInt64) (file : FileId) :
    Continues streams ((Streams.seek stream target).run streams).2 file [] := by
  have moves (handle : HandleId) := System.extends_seek streams.system handle target.toNat file
  rw [Streams.seek, Action.run_bind, Action.run_get]
  simp only [Streams.Holds.stream_eq here]
  exact continues_onHandle UInt64.ofNat moves stream

theorem continues_position (here : streams.table[stream.index]? = some (.file known))
    (file : FileId) : Continues streams ((Streams.position stream).run streams).2 file [] := by
  have moves (handle : HandleId) :
      streams.system.Extends ((System.position handle).run streams.system).2 file [] := by
    rw [System.readsOnly_position handle]
    exact .refl streams.system file
  rw [Streams.position, Action.run_bind, Action.run_get]
  simp only [Streams.Holds.stream_eq here]
  exact continues_onHandle UInt64.ofNat moves stream

theorem continues_close (here : streams.table[stream.index]? = some (.file known))
    (file : FileId) : Continues streams (streams.close stream) file [] := by
  refine ⟨.refl streams.system file, fun other file there => ?_⟩
  rw [Streams.close, Streams.Holds.stream_eq here, Streams.setStream, Array.getElem?_setIfInBounds]
  have bound := (Array.getElem?_eq_some_iff.1 here).1
  by_cases same : stream.index = other.index
  · rw [if_pos same, if_pos bound]
    rw [← same, here] at there
    cases there
    exact .inr rfl
  · rw [if_neg same]
    exact .inl there

def added (streams : Streams) (path : String) (file : FileId) : Streams where
  system := (streams.system.openHandle (FileMode.append.flags .write) file).2
  table := streams.table.push (.file ⟨path, true, some ⟨streams.system.handles.size⟩⟩)

/-- An opening for appending fails with nothing changed, or gives a new stream on the file. -/
theorem run_openFile_append {path : String}
    (leads : streams.system.tree.find path .create = .ok (.file file)) :
    (∃ fault, (Streams.openFile path .append .write).run streams = (.error fault, streams)) ∨
      (Streams.openFile path .append .write).run streams =
        (.ok ⟨streams.table.size⟩, added streams path file) := by
  have writeOnly : ¬ (FileMode.append = .append ∧ FileAccess.write.canRead = true) := by decide
  rw [Streams.run_openFile, if_neg writeOnly, System.run_openFile_append leads]
  cases openingFault? path (FileMode.append.flags .write) with
  | some cause => exact .inl ⟨_, rfl⟩
  | none =>
    by_cases writable : (streams.system.stored file).writable = true
    · rw [if_pos writable]
      exact .inr rfl
    · rw [if_neg writable]
      exact .inl ⟨_, rfl⟩

theorem continues_added (streams : Streams) (path : String) (file : FileId) :
    Continues streams (added streams path file) file [] := by
  refine ⟨System.extends_openHandle streams.system _ file file, fun other known there => ?_⟩
  have bound := (Array.getElem?_eq_some_iff.1 there).1
  rw [added, Array.getElem?_push_lt bound, ← Array.getElem?_eq_getElem bound]
  exact .inl there

theorem appendsTo_added (streams : Streams) (path : String) (file : FileId) :
    AppendsTo (added streams path file) file ⟨streams.table.size⟩ := by
  refine ⟨_, Array.getElem?_push_size, ?_⟩
  rintro handle ⟨⟩
  exact ⟨_, Array.getElem?_push_size, rfl, rfl, rfl⟩

structure Grows (now next : Appenders) (file : FileId) (bytes : Bytes) : Prop where
  serves : next.Serves file
  grown : now.streams.system.Extends next.streams.system file bytes

variable {now : Appenders}

theorem Serves.grows (serves : now.Serves file)
    (continues : Continues now.streams streams file bytes) :
    Grows now { now with streams } file bytes where
  serves :=
    ⟨Nat.lt_of_lt_of_le serves.present continues.system.size_files,
      fun stream opened => (serves.appends stream opened).continues continues⟩
  grown := continues.system

theorem Serves.stays (serves : now.Serves file) : Grows now now file [] :=
  ⟨serves, .refl now.streams.system file⟩

theorem Serves.onStream (serves : now.Serves file) (number : Nat) {change : StreamId → Streams}
    (continues : ∀ (stream : StreamId) (known : FileStream),
      now.streams.table[stream.index]? = some (.file known) →
        Continues now.streams (change stream) file []) :
    Grows now (now.onStream number change) file [] := by
  unfold Appenders.onStream
  split
  case h_1 stream opened =>
    obtain ⟨known, here, -⟩ := serves.appends stream (List.mem_of_getElem? opened)
    exact serves.grows (continues stream known here)
  case h_2 => exact serves.stays

/-- What a write answers on one of the numbered streams, and what it adds. -/
theorem Serves.write (serves : now.Serves file) (opened : stream ∈ now.opened) (bytes : Bytes) :
    (now.streams.isClosed stream = true ∧
      (Streams.write stream bytes).run now.streams = (.error Stream.closedFault, now.streams)) ∨
    (now.streams.isClosed stream = false ∧ ∃ after,
      (Streams.write stream bytes).run now.streams =
        ((now.outcome file bytes).2.map fun _ => bytes.length, after) ∧
      Continues now.streams after file (bytes.take (now.outcome file bytes).1)) := by
  obtain ⟨known, here, opens⟩ := serves.appends stream opened
  have closed : now.streams.isClosed stream = known.handle.isNone := by
    rw [Streams.isClosed, Streams.Holds.stream_eq here, Stream.isClosed]
  cases held : known.handle with
  | none =>
    refine .inl ⟨?_, run_write_of_closed here held⟩
    rw [closed, held, Option.isNone_none]
  | some handle =>
    obtain ⟨entry, reached, sameFile, writable, appends⟩ := opens handle held
    subst sameFile
    refine .inr ⟨?_, run_write_of_open here held reached writable appends serves.present⟩
    rw [closed, held, Option.isNone_some]

theorem take_of_outcome (succeeds : (now.outcome file bytes).2 = .ok ()) :
    bytes.take (now.outcome file bytes).1 = bytes := by
  rw [show (now.outcome file bytes).1 = bytes.length from
    Kernel.accept_all (Nat.le_refl _) succeeds, List.take_length]

theorem Serves.respond_write (serves : now.Serves file) (number : Nat) (bytes : Bytes) :
    Grows now (now.respond (.write number bytes)) file
      (left file now (.write number bytes)) := by
  cases opened : now.opened[number]? with
  | none =>
    simp only [Appenders.respond, Appenders.onStream, left, opened]
    exact serves.stays
  | some stream =>
    simp only [Appenders.respond, Appenders.onStream, left, opened]
    rcases serves.write (List.mem_of_getElem? opened) bytes with
      ⟨closed, ran⟩ | ⟨isOpen, after, ran, continues⟩
    · have answered : now.answer stream bytes = _ := congrArg Prod.fst ran
      rw [answered, ran, closed]
      exact serves.stays
    · have answered : now.answer stream bytes = _ := congrArg Prod.fst ran
      have grows := serves.grows continues
      rw [answered, ran, isOpen]
      cases ended : (now.outcome file bytes).2 with
      | error cause => exact grows
      | ok =>
        rw [take_of_outcome ended] at grows
        exact grows

theorem Serves.respond (serves : now.Serves file) {request : Request}
    (leads : ∀ path, request = .open path →
      now.streams.system.tree.find path .create = .ok (.file file)) :
    Grows now (now.respond request) file (left file now request) := by
  cases request with
  | «open» path =>
    rcases run_openFile_append (leads path rfl) with ⟨fault, ran⟩ | ran
    · simp only [Appenders.respond, ran]
      exact serves.stays
    · simp only [Appenders.respond, ran]
      obtain ⟨⟨present, still⟩, grown⟩ := serves.grows (continues_added now.streams path file)
      refine ⟨⟨present, fun stream opened => ?_⟩, grown⟩
      rcases List.mem_append.1 opened with before | new
      · exact still stream before
      · rw [List.mem_singleton.1 new]
        exact appendsTo_added now.streams path file
  | write number bytes => exact serves.respond_write number bytes
  | seek number target =>
    exact serves.onStream number fun stream known here => continues_seek here target file
  | position number =>
    exact serves.onStream number fun stream known here => continues_position here file
  | sync number => exact serves.stays
  | close number =>
    exact serves.onStream number fun stream known here => continues_close here file

/-- Where no call stops short, a write that fails has left nothing. -/
theorem Serves.left_eq (serves : now.Serves file) (whole : now.streams.system.kernel.TakesWhole)
    (request : Request) : left file now request = succeeding now request := by
  cases request with
  | write number bytes =>
    cases opened : now.opened[number]? with
    | none => simp only [left, succeeding, opened]
    | some stream =>
      simp only [left, succeeding, opened]
      rcases serves.write (List.mem_of_getElem? opened) bytes with
        ⟨closed, -⟩ | ⟨isOpen, after, ran, -⟩
      · rw [closed]
        rfl
      · have answered : now.answer stream bytes = _ := congrArg Prod.fst ran
        rw [answered, isOpen]
        cases ended : (now.outcome file bytes).2 with
        | ok => rfl
        | error cause =>
          have nothing : (now.outcome file bytes).1 = 0 := Kernel.accept_none whole ended
          rw [nothing]
          rfl
  | «open» | seek | position | sync | close => rfl

/-- The file that the openings of a history lead to stays where it is. -/
theorem Serves.after (serves : now.Serves file) {history : List Request}
    (leads : ∀ path, .open path ∈ history →
      now.streams.system.tree.find path .create = .ok (.file file)) :
    Grows now (now.after history) file (gathered (left file) now history) ∧
      (now.streams.system.kernel.TakesWhole →
        gathered (left file) now history = gathered succeeding now history) := by
  induction history generalizing now with
  | nil => exact ⟨serves.stays, fun _ => rfl⟩
  | cons request rest ih =>
    have first := serves.respond fun path opens => leads path (opens ▸ List.mem_cons_self)
    have laterLeads : ∀ path, .open path ∈ rest →
        (now.respond request).streams.system.tree.find path .create = .ok (.file file) := by
      intro path opens
      rw [first.grown.tree]
      exact leads path (List.mem_cons_of_mem _ opens)
    obtain ⟨later, same⟩ := ih first.serves laterLeads
    refine ⟨⟨later.serves, first.grown.trans later.grown⟩, fun whole => ?_⟩
    rw [gathered, gathered, serves.left_eq whole, same (first.grown.kernel ▸ whole)]

/-- At every moment the file holds what it held at first and behind it what the writes left, one
after the other: all bytes of those that succeeded, and of one that failed on an open stream those
that were taken before. Nothing is left of a failed write if no call stops short. -/
theorem appended {streams : Streams} {file : FileId}
    (present : file.index < streams.system.files.size) {history : List Request}
    (leads : ∀ path, .open path ∈ history →
      streams.system.tree.find path .create = .ok (.file file)) :
    let start : Appenders := ⟨streams, []⟩
    let now := start.after history
    now.bytes file = start.bytes file ++ gathered (left file) start history ∧
      (streams.system.kernel.TakesWhole →
        gathered (left file) start history = gathered succeeding start history) ∧
      ∀ stream ∈ now.opened, ∀ bytes,
        (now.streams.isClosed stream = true →
          (Streams.write stream bytes).run now.streams =
            (.error Stream.closedFault, now.streams)) ∧
        (now.streams.isClosed stream = false →
          now.answer stream bytes = (now.outcome file bytes).2.map fun _ => bytes.length) := by
  intro start now
  have serves : start.Serves file := ⟨present, by rintro stream ⟨⟩⟩
  obtain ⟨grows, same⟩ := serves.after leads
  refine ⟨grows.grown.content, same, fun stream opened bytes => ?_⟩
  rcases grows.serves.write opened bytes with ⟨closed, ran⟩ | ⟨isOpen, after, ran, -⟩
  · refine ⟨fun _ => ran, fun isOpen => ?_⟩
    cases closed.symm.trans isOpen
  · refine ⟨fun closed => ?_, fun _ => congrArg Prod.fst ran⟩
    cases closed.symm.trans isOpen

/-- One file of two bytes, where no file can be larger than four. -/
def brimming : Streams where
  system :=
    { files := #[{ content := .ofList [7, 8] }]
      tree := .single
      kernel := .limited 4 }

/-- Three bytes are written where there is room for two, and a fourth after the stream was
closed. -/
def spilling : List Request :=
  [.open "a", .seek 0 0, .write 0 [1, 2, 3], .close 0, .write 0 [4]]

theorem leads_of_spilling {path : String} (opens : .open path ∈ spilling) :
    brimming.system.tree.find path .create = .ok (.file ⟨0⟩) := by
  have only : path = "a" := by simpa [spilling] using opens
  rw [only]
  exact Tree.find_single .create

/-- What fits of the three bytes stays, though no write succeeds. -/
theorem spilled :
    let start : Appenders := ⟨brimming, []⟩
    (∀ path, .open path ∈ spilling →
        brimming.system.tree.find path .create = .ok (.file ⟨0⟩)) ∧
      (start.after spilling).bytes ⟨0⟩ ≠
        start.bytes ⟨0⟩ ++ gathered succeeding start spilling :=
  ⟨fun path => leads_of_spilling, by decide +kernel⟩

theorem appended_spilling :
    ((⟨brimming, []⟩ : Appenders).after spilling).bytes ⟨0⟩ = [7, 8, 1, 2] := by
  have left : gathered (left ⟨0⟩) ⟨brimming, []⟩ spilling = [1, 2] := by decide +kernel
  have content := (appended (by decide) (fun path => leads_of_spilling)).1
  rw [left] at content
  exact content

end Appenders

end GuestBridge
