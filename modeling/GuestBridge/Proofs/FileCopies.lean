import GuestBridge.Backend.Unix
import GuestBridge.Proofs.TransferDestinations
import Mathlib.Control.Monad.Basic

/-!
Copying a file by transfers to another one. One transfer moves as many bytes as the system sees fit,
at least one while there are some; the next one goes on where it stopped. However the counts and the
answers fall, what arrives is the rest of the source, in order, and the source is left alone.
-/
namespace GuestBridge

open Posix

theorem toNat_toUInt64_of_pos {count : Int64} (positive : 0 < count) :
    (count.toUInt64.toNat : Int) = count.toInt ∧ 0 < count.toUInt64.toNat := by
  have above : 0 < count.toInt := Int64.lt_iff_toInt_lt.1 positive
  have same : count.toUInt64.toNat = count.toInt.toNat :=
    Int64.toNat_toUInt64_of_le (Int64.le_of_lt positive)
  omega

namespace Posix

/-- A transfer from any position is granted, and moves at least one byte where there is one, to
wherever in a file it goes. -/
structure Kernel.MovesOn (kernel : Kernel) : Prop where
  asks : ∀ {position count : Nat}, position < positionLimit →
    kernel.asks position count = .ok ()
  begins : ∀ {position count : Nat}, position < positionLimit →
    kernel.begins position count = .ok ()
  sends : ∀ (calls position : Nat) {ready : Nat} (start : Nat), 0 < ready →
    ∃ sent, kernel.sends calls position ready (some start) = .ok sent ∧ 0 < sent

namespace System

/-- Between the handles bytes can be sent: the one is of a file and to be read, the other is to be
written at its cursor, and they are of different files. -/
structure Copyable (system : System) (source target : HandleId) (reading writing : OpenFile) :
    Prop where
  source : system.handles[source.index]? = some reading
  target : system.handles[target.index]? = some writing
  readable : reading.readable = true
  writable : writing.writable = true
  plain : writing.appends = false
  apart : writing.file ≠ reading.file
  regular : (system.stored reading.file).isDirectory = false
  kept : writing.file.index < system.files.size

/-- What a transfer of so many bytes does between two handles. -/
structure Sent (before after : System) (source target : HandleId) (reading writing : OpenFile)
    (position sent : Nat) : Prop where
  copyable : after.Copyable source target reading { writing with cursor := writing.cursor + sent }
  kernel : after.kernel = before.kernel
  left : after.content reading.file = before.content reading.file
  arrived : (after.content writing.file).toList =
    (before.content writing.file).toList.written writing.cursor
      (((before.content reading.file).toList.drop position).take sent)

variable {system : System} {source target : HandleId} {reading writing : OpenFile}
  {position : Nat}

theorem Copyable.sent_none (copyable : system.Copyable source target reading writing) :
    Sent system system source target reading writing position 0 where
  copyable := copyable
  kernel := rfl
  left := rfl
  arrived := by rw [List.take_zero, Bytes.written_nil]

theorem Copyable.sent_put (copyable : system.Copyable source target reading writing)
    {piece : Content} (nonempty : piece.size ≠ 0)
    (cut : piece.toList = ((system.content reading.file).toList.drop position).take piece.size) :
    Sent system (system.called.put target writing.file writing.cursor piece) source target reading
      writing position piece.size where
  copyable :=
    { copyable with
      source := by
        have different : target ≠ source := by
          rintro rfl
          have same := copyable.source.symm.trans copyable.target
          exact copyable.apart (congrArg OpenFile.file (Option.some.inj same)).symm
        rw [handles_put_ne different]
        exact copyable.source
      target := handles_put_same copyable.target
      regular := by
        rw [stored_put_ne copyable.apart]
        exact copyable.regular
      kept := by
        rw [size_files_put]
        exact copyable.kept }
  kernel := rfl
  left := content_put_ne copyable.apart
  arrived := by
    have some : piece.toList ≠ [] := by
      intro empty
      rw [← Content.length_toList, empty] at nonempty
      exact nonempty rfl
    have filled : ((system.called.put target writing.file writing.cursor piece).content
          writing.file).toList =
        (system.content writing.file).toList.overwrite writing.cursor piece.toList :=
      content_put_same copyable.kept
    rw [filled, ← cut, Bytes.written, if_neg some]

/-- Below the end of the source some bytes are sent, and at the end none. -/
theorem Copyable.run_sendFile (copyable : system.Copyable source target reading writing)
    (count : Nat) (moves : system.kernel.MovesOn) (placed : position < positionLimit) :
    ∃ sent after, (sendFile (.file target) source position count).run system = (.ok sent, after) ∧
      sent ≤ count ∧ sent ≤ (system.content reading.file).size - position ∧
      (0 < count → position < (system.content reading.file).size → 0 < sent) ∧
      Sent system after source target reading writing position sent := by
  let bytes := (system.content reading.file).slice position count
  have leaving : system.outgoing reading.file position count (.file target) = bytes := by
    simp [outgoing, laterCursor?, copyable.target, copyable.apart, bytes]
  have ready : bytes.size = min count ((system.content reading.file).size - position) := by
    change (((system.content reading.file).drop position).take count).size = _
    rw [Content.size_take, Content.size_drop]
  by_cases empty : bytes.size = 0
  · refine ⟨0, system, ?_, by omega, by omega, by omega, copyable.sent_none⟩
    simp [sendFile, Action.run_bind, run_lookHandle copyable.source,
      run_lookHandle copyable.target, copyable.readable, copyable.writable, copyable.plain,
      copyable.regular, moves.asks placed, moves.begins placed, leaving, Content.isEmpty, empty,
      Except.map]
  obtain ⟨sent, answered, some⟩ :=
    moves.sends system.calls position writing.cursor (Nat.pos_of_ne_zero empty)
  have bounded := system.kernel.sends_le answered
  let piece := bytes.take sent
  have pieceSize : piece.size = sent := by
    rw [Content.size_take]
    omega
  have cut : piece.toList =
      ((system.content reading.file).toList.drop position).take piece.size := by
    rw [Content.toList_take, Content.toList_slice, List.take_take, pieceSize]
    congr 1
    omega
  have sentOn := copyable.sent_put (by omega) cut
  refine ⟨sent, system.called.put target writing.file writing.cursor piece, ?_, by omega, by omega,
    fun _ _ => some, pieceSize ▸ sentOn⟩
  have delivered : system.called.deliver reading.file position piece (.file target) =
      system.called.put target writing.file writing.cursor piece := by
    have there : system.called.handles[target.index]? = _ := copyable.target
    rw [deliver, there]
  simp [sendFile, Action.run_bind, run_lookHandle copyable.source,
    run_lookHandle copyable.target, copyable.readable, copyable.writable, copyable.plain,
    copyable.regular, moves.asks placed, moves.begins placed, leaving, Content.isEmpty, empty,
    answered, some, ← delivered, piece, Except.map]

end System

end Posix

namespace Backend

variable {state : Type}

def sentStatus (sent : Nat) : IoStatus := if sent = 0 then .endOfFile else .ok (UInt64.ofNat sent)

theorem run_unix_transfer (loader : LibraryLoader state) (machine : Machine state)
    {source target : HandleId} {reading writing : OpenFile} {position count : UInt64}
    (copyable : machine.system.Copyable source target reading writing)
    (moves : machine.system.kernel.MovesOn) (placed : position.toNat < positionLimit)
    (positive : 0 < count.toNat) :
    ∃ sent after, ((unix loader).transfer source position count (.file target)).run machine =
        (.ok (sentStatus sent), { machine with system := after }) ∧
      sent ≤ count.toNat ∧
      sent ≤ (machine.system.content reading.file).size - position.toNat ∧
      (position.toNat < (machine.system.content reading.file).size → 0 < sent) ∧
      machine.system.Sent after source target reading writing position.toNat sent := by
  let wanted := if count ≤ largestTransfer then count else largestTransfer
  have chunk : wanted.toNat ≤ count.toNat ∧ 0 < wanted.toNat := by
    have largest : largestTransfer.toNat = 0x7ffff000 := rfl
    simp only [wanted]
    split
    case isTrue whole =>
      have whole := UInt64.le_iff_toNat_le.1 whole
      omega
    case isFalse exceeds =>
      have exceeds := UInt64.lt_iff_toNat_lt.1 (UInt64.not_le.1 exceeds)
      omega
  obtain ⟨sent, after, ran, sentCount, sentRest, progress, moved⟩ :=
    copyable.run_sendFile wanted.toNat moves placed
  refine ⟨sent, after, ?_, by omega, sentRest, progress chunk.2, moved⟩
  have asked : 0 < count := positive
  simp only [unix, Action.run_bind, filePosition, placed, if_true, Except.mapError,
    Action.run_ofExcept, Action.run_attempt, onSystem, Action.run_within, wanted] at ran ⊢
  simp only [ran, asked, and_true, sentStatus]
  split <;> rfl

end Backend

theorem Channel.run_transfer_unix {state : Type} {channel : Channel state} {world : World state}
    {source target sourceFile targetFile : StreamId} {sourceHandle targetHandle : HandleId}
    {position count : Int64} {loader : LibraryLoader state}
    (unix : channel.backend = .unix loader)
    (serves : world.streams.Serves source sourceFile)
    (sourceOpened : world.streams.handle sourceFile = .ok sourceHandle)
    (targetServed : world.streams.file? target = some targetFile)
    (targetOpened : world.streams.handle targetFile = .ok targetHandle)
    (placed : 0 ≤ position) (positive : 0 < count) :
    (channel.transfer (some source) position count { stream := some target }).run world =
      (World.onMachine ((Backend.unix loader).transfer sourceHandle position.toUInt64
        count.toUInt64 (.file targetHandle))).run world := by
  have leads : Destination.Leads world.streams { stream := some target } (.file targetHandle) :=
    .file rfl rfl targetServed targetOpened
  have direct : channel.backend.seeksBeforeTransfer = false := by
    rw [unix]
    rfl
  rw [run_transfer_of_rule (.sent serves placed positive leads sourceOpened),
    run_carryOut_of_direct direct, unix]

namespace Bridge

open Session

variable {state : Type}

/-- Two descriptors between which the bytes of a file can be copied: one with an open stream on it,
and one without a socket and with the stream of another file. -/
structure Copyable (session : Session state) (source destination : ObjectId)
    (sourceHandle targetHandle : HandleId) (reading writing : OpenFile) : Prop where
  unix : ∃ loader, session.bridge.backend = .unix loader
  source : ∃ stream file, ((descriptorStream source).run session).1 = .ok (some stream) ∧
    session.world.streams.isClosed stream = false ∧
    session.world.streams.file? stream = some file ∧
    session.world.streams.handle file = .ok sourceHandle
  socketless : ((descriptorSocket destination).run session).1 = .ok none
  destination : ∃ stream file, ((descriptorStream destination).run session).1 = .ok (some stream) ∧
    session.world.streams.file? stream = some file ∧
    session.world.streams.handle file = .ok targetHandle
  system : session.world.streams.system.Copyable sourceHandle targetHandle reading writing

namespace Copyable

variable {session after : Session state} {source destination : ObjectId}
  {sourceHandle targetHandle : HandleId} {reading writing : OpenFile}

theorem resolves (copyable : Copyable session source destination sourceHandle targetHandle reading
    writing) (resolves : session.Resolves after) :
    Copyable after source destination sourceHandle targetHandle reading writing := by
  have stream (descriptor : ObjectId) : ((descriptorStream descriptor).run after).1 =
      ((descriptorStream descriptor).run session).1 := by
    rw [outcome_descriptorStream, outcome_descriptorStream, streamIn_eq resolves]
  have socket : ((descriptorSocket destination).run after).1 =
      ((descriptorSocket destination).run session).1 := by
    rw [outcome_descriptorSocket, outcome_descriptorSocket, socketIn_eq resolves]
  obtain ⟨unix, sourceFound, socketless, destinationFound, system⟩ := copyable
  refine ⟨?_, ?_, ?_, ?_, ?_⟩
  · rw [resolves.backend_eq]
    exact unix
  · rw [stream, resolves.world_eq]
    exact sourceFound
  · rw [socket]
    exact socketless
  · rw [stream, resolves.world_eq]
    exact destinationFound
  · rw [resolves.world_eq]
    exact system

/-- The next call finds what this one found, with the system as this one left it. -/
theorem withSystem (copyable : Copyable session source destination sourceHandle targetHandle
    reading writing) {system : System} {moved : OpenFile}
    (still : system.Copyable sourceHandle targetHandle reading moved) :
    Copyable
      { session with world :=
        { session.world with streams := { session.world.streams with system := system } } }
      source destination sourceHandle targetHandle reading moved := by
  obtain ⟨unix, sourceFound, socketless, destinationFound, -⟩ := copyable
  rw [outcome_descriptorSocket] at socketless
  simp only [outcome_descriptorStream] at sourceFound destinationFound
  refine ⟨unix, ?_, ?_, ?_, still⟩
  · simp only [outcome_descriptorStream]
    exact sourceFound
  · rw [outcome_descriptorSocket]
    exact socketless
  · simp only [outcome_descriptorStream]
    exact destinationFound

theorem transfer (copyable : Copyable session source destination sourceHandle targetHandle reading
    writing) (moves : session.world.streams.system.kernel.MovesOn) {position : Nat}
    (addressed : position < positionLimit) {count : Int64} (positive : 0 < count) :
    ∃ sent after,
      (Bridge.transfer source (Int64.ofNat position) count destination).run session =
        (.ok (Backend.sentStatus sent), after) ∧
      (sent : Int) ≤ count.toInt ∧
      sent ≤ (session.world.streams.system.content reading.file).size - position ∧
      (position < (session.world.streams.system.content reading.file).size → 0 < sent) ∧
      Copyable after source destination sourceHandle targetHandle reading
        { writing with cursor := writing.cursor + sent } ∧
      System.Sent session.world.streams.system after.world.streams.system sourceHandle targetHandle
        reading writing position sent := by
  have small : position < 2 ^ 63 := addressed
  have placed : (Int64.ofNat position).toUInt64.toNat = position := by
    rw [Int64.toUInt64_ofNat', UInt64.toNat_ofNat_of_lt' (by simp [UInt64.size]; omega)]
  have notBefore : 0 ≤ Int64.ofNat position := by
    rw [Int64.le_iff_toInt_le, Int64.toInt_ofNat_of_lt (by omega)]
    exact Int.natCast_nonneg position
  obtain ⟨counted, asked⟩ := toNat_toUInt64_of_pos positive
  obtain ⟨stream, file, found, isOpen, served, opened⟩ := copyable.source
  obtain ⟨target, targetFile, targetFound, targetServed, targetOpened⟩ := copyable.destination
  obtain ⟨loader, unix⟩ := copyable.unix
  have socketless := copyable.socketless
  have system := copyable.system
  obtain ⟨resolved, resolves, lookedUp⟩ :=
    run_transfer source (Int64.ofNat position) count destination session
  rw [outcome_descriptorStream] at found targetFound
  rw [outcome_descriptorSocket] at socketless
  have looked : destinationIn session destination = .ok { stream := some target } := by
    rw [destinationIn, socketless, targetFound]
    rfl
  rw [← resolves.world_eq] at isOpen served opened targetServed targetOpened system moves
  rw [← placed] at addressed
  obtain ⟨sent, after, ran, sentCount, sentRest, progress, moved⟩ :=
    Backend.run_unix_transfer loader (World.machinePart.get (worldPart.get resolved)) system moves
      addressed asked
  have ended : (session.bridge.channel.transfer (some stream) (Int64.ofNat position) count
      { stream := some target }).run (worldPart.get resolved) = _ :=
    Channel.run_transfer_unix unix ⟨isOpen, served⟩ opened targetServed targetOpened
      notBefore positive
  have sameSystem : (World.machinePart.get (worldPart.get resolved)).system =
      session.world.streams.system :=
    congrArg (fun world => world.streams.system) resolves.world_eq
  rw [placed, sameSystem] at sentRest progress moved
  refine ⟨sent, _, ?_, by omega, sentRest, progress,
    (copyable.resolves resolves).withSystem moved.copyable, moved⟩
  simp only [lookedUp, found, looked, Action.run_bind, Action.run_liftM, onWorld,
    Action.run_within]
  rw [ended, World.onMachine, Action.run_within, ran]
  rfl

end Copyable

end Bridge

/-- How far repeated transfers have come, and what they have left. -/
structure CopyProgress (state : Type) where
  position : Nat
  session : Session state

namespace CopyProgress

open Bridge

variable {state : Type}

def answer (source destination : ObjectId) (count : Int64) (progress : CopyProgress state) :
    Except Fault IoStatus :=
  ((transfer source (Int64.ofNat progress.position) count destination).run progress.session).1

/-- One more transfer, behind which the position stands by the count that it answers. -/
def next (source destination : ObjectId) (count : Int64) (progress : CopyProgress state) :
    CopyProgress state where
  position := progress.position +
    (((progress.answer source destination count).toOption.bind IoStatus.count?).elim 0 UInt64.toNat)
  session :=
    ((transfer source (Int64.ofNat progress.position) count destination).run progress.session).2

def after (source destination : ObjectId) (counts : Nat → Int64) (progress : CopyProgress state) :
    Nat → CopyProgress state
  | 0 => progress
  | calls + 1 =>
    (after source destination counts progress calls).next source destination (counts calls)

def bytes (progress : CopyProgress state) (file : FileId) : Bytes :=
  (progress.session.world.streams.system.content file).toList

/-- What holds at every moment of a copy: the source is as it was, and what was passed over in it
has arrived behind the first cursor of the target. -/
structure Underway (start : CopyProgress state) (source destination : ObjectId)
    (sourceHandle targetHandle : HandleId) (reading writing : OpenFile)
    (now : CopyProgress state) : Prop where
  forward : start.position ≤ now.position
  within : now.position ≤ (start.bytes reading.file).length
  copyable : Copyable now.session source destination sourceHandle targetHandle reading
    { writing with cursor := writing.cursor + (now.position - start.position) }
  kernel : now.session.world.streams.system.kernel = start.session.world.streams.system.kernel
  left : now.bytes reading.file = start.bytes reading.file
  arrived : now.bytes writing.file = (start.bytes writing.file).written writing.cursor
    (((start.bytes reading.file).drop start.position).take (now.position - start.position))

variable {start now : CopyProgress state} {source destination : ObjectId}
  {sourceHandle targetHandle : HandleId} {reading writing : OpenFile} {count : Int64}

theorem Underway.begin
    (copyable : Copyable start.session source destination sourceHandle targetHandle reading writing)
    (within : start.position ≤ (start.bytes reading.file).length) :
    Underway start source destination sourceHandle targetHandle reading writing start where
  forward := Nat.le_refl _
  within := within
  copyable := by
    rw [Nat.sub_self]
    exact copyable
  kernel := rfl
  left := rfl
  arrived := by rw [Nat.sub_self, List.take_zero, Bytes.written_nil]

/-- What one more call answers, and how it moves the position. -/
inductive Moves (now next : CopyProgress state) (answer : Except Fault IoStatus) (count : Int64)
    (size : Nat) : Prop where
  | sent (sent : UInt64) (answered : answer = .ok (.ok sent)) (some : 1 ≤ sent.toNat)
      (asked : (sent.toNat : Int) ≤ count.toInt)
      (onward : next.position = now.position + sent.toNat) (below : now.position < size)
  | ended (answered : answer = .ok .endOfFile) (stays : next.position = now.position)
      (atEnd : now.position = size)

/-- The kernel moves on, and all of the source can be reached by positions. -/
structure Ready (start : CopyProgress state) (reading : OpenFile) : Prop where
  moves : start.session.world.streams.system.kernel.MovesOn
  addressed : (start.bytes reading.file).length < positionLimit

theorem Underway.next
    (underway : Underway start source destination sourceHandle targetHandle reading writing now)
    (ready : start.Ready reading) (positive : 0 < count) :
    Underway start source destination sourceHandle targetHandle reading writing
        (now.next source destination count) ∧
      Moves now (now.next source destination count) (now.answer source destination count) count
        (start.bytes reading.file).length := by
  obtain ⟨forward, within, copyable, kernel, left, arrived⟩ := underway
  have addressed : (start.bytes reading.file).length < 2 ^ 63 := ready.addressed
  have size : (now.session.world.streams.system.content reading.file).size =
      (start.bytes reading.file).length := by
    rw [← left]
    exact (Content.length_toList _).symm
  obtain ⟨sent, after, ran, asked, rest, progress, copyableNext, moved⟩ :=
    copyable.transfer (kernel ▸ ready.moves) (Nat.lt_of_le_of_lt within addressed) positive
  rw [size] at rest progress
  have answered : now.answer source destination count = .ok (Backend.sentStatus sent) :=
    congrArg Prod.fst ran
  have reached : (now.next source destination count).session = after := congrArg Prod.snd ran
  have counted : (UInt64.ofNat sent).toNat = sent :=
    UInt64.toNat_ofNat_of_lt' (by simp [UInt64.size]; omega)
  have onward : (now.next source destination count).position = now.position + sent := by
    rw [CopyProgress.next, answered, Backend.sentStatus]
    split
    case isTrue none => simp [none, Except.toOption, IoStatus.count?]
    case isFalse => simp [Except.toOption, IoStatus.count?, counted]
  refine ⟨⟨?_, ?_, ?_, ?_, ?_, ?_⟩, ?_⟩
  · omega
  · omega
  -- The cursor of the target has moved with the position.
  · have cursor : writing.cursor + (now.position - start.position) + sent =
        writing.cursor + ((now.next source destination count).position - start.position) := by
      omega
    rw [reached, ← cursor]
    exact copyableNext
  · rw [reached, moved.kernel, kernel]
  · rw [← left, bytes, reached, moved.left, bytes]
  · let rest := (start.bytes reading.file).drop start.position
    let passed := now.position - start.position
    have enough : passed ≤ rest.length := by
      rw [List.length_drop]
      omega
    have piece : ((now.bytes reading.file).drop now.position).take sent =
        (rest.drop passed).take sent := by
      rw [left]
      simp only [rest, passed, List.drop_drop, Nat.add_sub_cancel' forward]
    have total : (now.next source destination count).position - start.position = passed + sent := by
      omega
    calc (now.next source destination count).bytes writing.file
        = (now.bytes writing.file).written (writing.cursor + passed)
            (((now.bytes reading.file).drop now.position).take sent) := by
          rw [bytes, reached]
          exact moved.arrived
      _ = ((start.bytes writing.file).written writing.cursor (rest.take passed)).written
            (writing.cursor + passed) ((rest.drop passed).take sent) := by rw [arrived, piece]
      _ = (start.bytes writing.file).written writing.cursor (rest.take (passed + sent)) :=
          Bytes.written_onward _ _ _ _ enough
      _ = _ := by rw [total]
  · by_cases atEnd : now.position = (start.bytes reading.file).length
    · have none : sent = 0 := by omega
      refine .ended ?_ (by omega) atEnd
      rw [answered, none, Backend.sentStatus, if_pos rfl]
    · have some : sent ≠ 0 := by omega
      refine .sent (UInt64.ofNat sent) ?_ (by omega) (by omega) (by omega) (by omega)
      rw [answered, Backend.sentStatus, if_neg some]

theorem Underway.after
    (copyable : Copyable start.session source destination sourceHandle targetHandle reading writing)
    (ready : start.Ready reading) (within : start.position ≤ (start.bytes reading.file).length)
    {counts : Nat → Int64} (positive : ∀ call, 0 < counts call) (calls : Nat) :
    Underway start source destination sourceHandle targetHandle reading writing
      (start.after source destination counts calls) := by
  induction calls with
  | zero => exact .begin copyable within
  | succ calls ih => exact (ih.next ready (positive calls)).1

/-- The end is reached, or every call has brought at least one byte. -/
theorem position_after
    (copyable : Copyable start.session source destination sourceHandle targetHandle reading writing)
    (ready : start.Ready reading) (within : start.position ≤ (start.bytes reading.file).length)
    {counts : Nat → Int64} (positive : ∀ call, 0 < counts call) (calls : Nat) :
    (start.after source destination counts calls).position = (start.bytes reading.file).length ∨
      start.position + calls ≤ (start.after source destination counts calls).position := by
  induction calls with
  | zero => exact .inr (Nat.le_refl _)
  | succ calls ih =>
    have underway := Underway.after copyable ready within positive calls
    have stepped : Moves (start.after source destination counts calls)
        (start.after source destination counts (calls + 1)) _ _ _ :=
      (underway.next ready (positive calls)).2
    cases stepped with
    | sent sent answered some asked onward below => omega
    | ended answered stays atEnd => omega

end CopyProgress

open CopyProgress in
/-- Transfers from a position on, each from where the last one stopped, however many bytes each asks
for and the system gives it. -/
theorem copy_completes {state : Type} {session : Session state} {source destination : ObjectId}
    {sourceHandle targetHandle : HandleId} {reading writing : OpenFile}
    (copyable : Bridge.Copyable session source destination sourceHandle targetHandle reading
      writing)
    (moves : session.world.streams.system.kernel.MovesOn)
    (addressed : (session.world.streams.system.content reading.file).size < positionLimit)
    {position : Nat}
    (within : position ≤ (session.world.streams.system.content reading.file).size)
    (counts : Nat → Int64) (positive : ∀ call, 0 < counts call) :
    let start : CopyProgress state := ⟨position, session⟩
    let content := start.bytes reading.file
    let now := start.after source destination counts
    (∀ calls,
      ((now calls).position < content.length →
        ∃ sent, (now calls).answer source destination (counts calls) = .ok (.ok sent) ∧
          1 ≤ sent.toNat ∧ (sent.toNat : Int) ≤ (counts calls).toInt ∧
          (now (calls + 1)).position = (now calls).position + sent.toNat) ∧
      ((now calls).position = content.length →
        (now calls).answer source destination (counts calls) = .ok .endOfFile) ∧
      position ≤ (now calls).position ∧ (now calls).position ≤ content.length ∧
      (now calls).bytes writing.file = (start.bytes writing.file).written writing.cursor
        ((content.drop position).take ((now calls).position - position)) ∧
      (now calls).bytes reading.file = content ∧
      (now calls).session.world.streams.system.handles[sourceHandle.index]? = some reading) ∧
    ∃ calls ≤ content.length - position, (now calls).position = content.length ∧
      (now calls).bytes writing.file =
        (start.bytes writing.file).written writing.cursor (content.drop position) ∧
      (now calls).session.world.streams.system.handles[targetHandle.index]? =
        some { writing with cursor := writing.cursor + (content.length - position) } := by
  intro start content now
  rw [← Content.length_toList] at addressed within
  have ready : start.Ready reading := ⟨moves, addressed⟩
  have underway (calls : Nat) : Underway start source destination sourceHandle targetHandle reading
      writing (now calls) :=
    .after copyable ready within positive calls
  have stepped (calls : Nat) := ((underway calls).next ready (positive calls)).2
  refine ⟨fun calls => ⟨fun below => ?_, fun atEnd => ?_, (underway calls).forward,
    (underway calls).within, (underway calls).arrived, (underway calls).left,
    (underway calls).copyable.system.source⟩, ?_⟩
  · cases stepped calls with
    | sent sent answered some asked onward _ => exact ⟨sent, answered, some, asked, onward⟩
    | ended answered stays atEnd => exact absurd atEnd (Nat.ne_of_lt below)
  · cases stepped calls with
    | sent sent answered some asked onward below => exact absurd atEnd (Nat.ne_of_lt below)
    | ended answered stays _ => exact answered
  -- Every call before the end brings a byte, so there are no more calls than bytes.
  · let calls := content.length - position
    have reached : (now calls).position = content.length := by
      have forward : (now calls).position = content.length ∨
          position + calls ≤ (now calls).position :=
        position_after copyable ready within positive calls
      have within : (now calls).position ≤ content.length := (underway calls).within
      omega
    refine ⟨calls, Nat.le_refl _, reached, ?_, ?_⟩
    · have arrived := (underway calls).arrived
      rw [reached, List.take_of_length_le (Nat.le_of_eq List.length_drop)] at arrived
      exact arrived
    · have target := (underway calls).copyable.system.target
      rw [reached] at target
      exact target

/-- Moves two bytes at a time. -/
def Posix.Kernel.byTwos : Kernel :=
  { Kernel.unlimited with
    sends := fun _ _ ready _ => .ok (min 2 ready)
    sends_le := fun sent => by cases sent; exact Nat.min_le_right .. }

theorem Posix.Kernel.movesOn_byTwos : Kernel.byTwos.MovesOn where
  asks _ := rfl
  begins _ := rfl
  sends _ _ {ready} _ some := ⟨min 2 ready, rfl, by omega⟩

/-- A bridge on a system that moves two bytes at a time, with descriptors of two files. They are the
second and the fourth object. -/
def Session.onTwoFiles : Session Unit :=
  let describe (stream : StreamId) : Action MemberSpace Fault Unit := do
    let wrapper ← MemberSpace.onHeap (BaseClass.wrapStream stream)
    let descriptor ← MemberSpace.newDescriptor
    MemberSpace.setDescriptorStream descriptor (some wrapper)
  let made := (BaseClass.addTo {}).run {}
  let space := ((do describe ⟨0⟩; describe ⟨1⟩).run
    { types := made.1.toOption.getD {}, heap := made.2 }).2
  { bridge :=
      { backend := .unix .empty, options := {}, pressure := ⟨0⟩, types := space.types
        members := space.table }
    world :=
      { heap := space.heap
        streams :=
          { table := #[.file ⟨"source", false, some ⟨0⟩⟩, .file ⟨"target", false, some ⟨1⟩⟩]
            system :=
              { files := #[{ content := .ofList [1, 2, 3, 4, 5] }, { content := .ofList [8, 9] }]
                handles := #[⟨⟨0⟩, 4, true, false, false⟩, ⟨⟨1⟩, 1, false, true, false⟩]
                kernel := .byTwos } }
        backends := () } }

theorem copy_completes_of_two_bytes :
    let start : CopyProgress Unit := ⟨1, Session.onTwoFiles⟩
    ∃ calls ≤ 4, (start.after ⟨1⟩ ⟨3⟩ (fun _ => 3) calls).bytes ⟨1⟩ = [8, 2, 3, 4, 5] := by
  intro start
  have source : ((Bridge.descriptorStream ⟨1⟩).run Session.onTwoFiles).1 = .ok (some ⟨0⟩) := by
    decide +kernel
  have socketless : ((Bridge.descriptorSocket ⟨3⟩).run Session.onTwoFiles).1 = .ok none := by
    decide +kernel
  have target : ((Bridge.descriptorStream ⟨3⟩).run Session.onTwoFiles).1 = .ok (some ⟨1⟩) := by
    decide +kernel
  have copyable : Bridge.Copyable Session.onTwoFiles ⟨1⟩ ⟨3⟩ ⟨0⟩ ⟨1⟩
      ⟨⟨0⟩, 4, true, false, false⟩ ⟨⟨1⟩, 1, false, true, false⟩ :=
    ⟨⟨.empty, rfl⟩, ⟨⟨0⟩, ⟨0⟩, source, rfl, rfl, rfl⟩, socketless, ⟨⟨1⟩, ⟨1⟩, target, rfl, rfl⟩,
      ⟨rfl, rfl, rfl, rfl, rfl, by decide, rfl, by decide⟩⟩
  have within : 1 ≤ (Session.onTwoFiles.world.streams.system.content ⟨0⟩).size := by decide
  obtain ⟨calls, few, -, arrived, -⟩ :=
    (copy_completes copyable Kernel.movesOn_byTwos (by decide) within (fun _ => 3)
      (fun _ => by decide)).2
  exact ⟨calls, few, arrived⟩

end GuestBridge
