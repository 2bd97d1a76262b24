import GuestBridge.Proofs.StreamHistories

/-!
Runs of an open pipe. Between what is written to it and what is read from it nothing is lost, added
or put in another order, whatever the sizes of the reads and writes are and whatever else is asked
in between: what has come out, and behind it what is still in the buffer, is what has gone in.
-/
namespace GuestBridge

open Posix

def StreamRequest.sent (pipe : StreamId) : StreamRequest → Bytes
  | write stream bytes => if stream = pipe then bytes else []
  | _ => []

namespace Streams

def buffered (streams : Streams) (pipe : StreamId) : Bytes :=
  match streams.stream pipe with
  | .pipe known => known.buffer
  | _ => []

/-- What a request gets out of a pipe, by the answer that it is given. -/
def taken (pipe : StreamId) (streams : Streams) : StreamRequest → Bytes
  | .read stream buffer =>
    if stream = pipe then
      match ((readInto stream buffer).run streams).1 with
      | .ok (count, filled) => filled.take count
      | .error _ => []
    else []
  | _ => []

def sent (pipe : StreamId) (history : List StreamRequest) : Bytes := history.flatMap (·.sent pipe)

/-- All that a history gets out of a pipe. -/
def received (pipe : StreamId) (now : Streams) : List StreamRequest → Bytes
  | [] => []
  | request :: rest => taken pipe now request ++ received pipe (now.respond request) rest

variable {streams : Streams} {pipe : StreamId} {waiting : Bytes} {request : StreamRequest}

theorem Holds.buffered_eq (here : streams.Holds pipe (.pipe { buffer := waiting })) :
    streams.buffered pipe = waiting := by
  rw [buffered, here.stream_eq]

/-- What an open pipe with these bytes in its buffer answers, and what becomes of it. -/
structure Flows (streams : Streams) (pipe : StreamId) (waiting : Bytes) : Prop where
  available : streams.available? pipe = some waiting.length
  read : ∀ buffer : Bytes, let count := min buffer.length waiting.length
    (readInto pipe buffer).run streams =
      (.ok (count, waiting.take count ++ buffer.drop count),
        streams.setStream pipe (.pipe { buffer := waiting.drop count }))
  write : ∀ bytes : Bytes, (Streams.write pipe bytes).run streams =
    (.ok bytes.length, streams.setStream pipe (.pipe { buffer := waiting ++ bytes }))
  seek : ∀ target, (Streams.seek pipe target).run streams =
    (.error (.described .unsupported "pipe is not seekable"), streams)
  position : (Streams.position pipe).run streams =
    (.error (.described .unsupported "pipe has no position"), streams)
  close : streams.close pipe = streams.setStream pipe (.pipe { buffer := [], closed := true })

theorem Holds.flows (here : streams.Holds pipe (.pipe { buffer := waiting })) :
    streams.Flows pipe waiting where
  available := by rw [available?, here.stream_eq]
  read buffer := by
    intro count
    have taken : (waiting.take count).length = count := by
      rw [List.length_take]
      omega
    have fits : (waiting.take count).length ≤ buffer.length := by omega
    have filled : buffer.fill (waiting.take count) = waiting.take count ++ buffer.drop count := by
      rw [Bytes.fill_eq_append fits, taken]
    simp [readInto, Action.run_bind, here.stream_eq, count, filled, Except.map]
  write bytes := by simp [Streams.write, Action.run_bind, here.stream_eq, Except.map]
  seek target := by simp [Streams.seek, Action.run_bind, here.stream_eq]
  position := by simp [Streams.position, Action.run_bind, here.stream_eq]
  close := by
    rw [Streams.close, here.stream_eq]
    rfl

theorem taken_read (here : streams.Holds pipe (.pipe { buffer := waiting })) (buffer : Bytes) :
    taken pipe streams (.read pipe buffer) = waiting.take (min buffer.length waiting.length) := by
  rw [taken, if_pos rfl, here.flows.read buffer]
  apply List.take_left'
  rw [List.length_take]
  omega

/-- One request keeps the balance of a pipe, and the pipe open, unless it closes it. -/
theorem Holds.balance (here : streams.Holds pipe (.pipe { buffer := waiting }))
    (unclosed : request ≠ .close pipe) :
    ∃ rest, (streams.respond request).Holds pipe (.pipe { buffer := rest }) ∧
      waiting ++ request.sent pipe = taken pipe streams request ++ rest := by
  by_cases reads : ∃ buffer, request = .read pipe buffer
  · obtain ⟨buffer, rfl⟩ := reads
    refine ⟨waiting.drop (min buffer.length waiting.length), ?_, ?_⟩
    · rw [Streams.respond, here.flows.read buffer]
      exact here.setStream_same _
    · rw [taken_read here, List.take_append_drop]
      exact List.append_nil waiting
  by_cases writes : ∃ bytes, request = .write pipe bytes
  · obtain ⟨bytes, rfl⟩ := writes
    refine ⟨waiting ++ bytes, ?_, ?_⟩
    · rw [Streams.respond, here.flows.write bytes]
      exact here.setStream_same _
    · rw [StreamRequest.sent, if_pos rfl]
      rfl
  · have unread (buffer : Bytes) : request ≠ .read pipe buffer := fun same => reads ⟨buffer, same⟩
    have unwritten (bytes : Bytes) : request ≠ .write pipe bytes :=
      fun same => writes ⟨bytes, same⟩
    have nothingSent : request.sent pipe = [] := by
      cases request with
      | write stream bytes => exact if_neg fun same => unwritten bytes (by rw [same])
      | _ => rfl
    have nothingTaken : taken pipe streams request = [] := by
      cases request with
      | read stream buffer => exact if_neg fun same => unread buffer (by rw [same])
      | _ => rfl
    refine ⟨waiting, here.respond unread unwritten unclosed, ?_⟩
    rw [nothingSent, nothingTaken, List.append_nil, List.nil_append]

theorem Holds.balance_after (here : streams.Holds pipe (.pipe { buffer := waiting }))
    {history : List StreamRequest} (kept : .close pipe ∉ history) :
    ∃ rest, (streams.after history).Holds pipe (.pipe { buffer := rest }) ∧
      waiting ++ sent pipe history = received pipe streams history ++ rest := by
  induction history generalizing streams waiting with
  | nil => exact ⟨waiting, here, List.append_nil waiting⟩
  | cons request later ih =>
    have unclosed : request ≠ .close pipe := fun same => kept (same ▸ List.mem_cons_self)
    obtain ⟨middle, moved, first⟩ := here.balance unclosed
    obtain ⟨rest, reached, balanced⟩ :=
      ih moved fun closed => kept (List.mem_cons_of_mem _ closed)
    refine ⟨rest, reached, ?_⟩
    calc waiting ++ sent pipe (request :: later)
        = (waiting ++ request.sent pipe) ++ sent pipe later := (List.append_assoc ..).symm
      _ = taken pipe streams request ++ (middle ++ sent pipe later) := by
        rw [first, List.append_assoc]
      _ = received pipe streams (request :: later) ++ rest := by
        rw [balanced, ← List.append_assoc, received]

/-- While a pipe is open, what was in it and what has been written to it since are what has been
read from it since and what is in it now. The next read gets the first bytes of that, as many as it
has room for and as there are, the next write is taken whole, and closing drops what is left. -/
theorem conserved {start : Streams} {pipe : StreamId} {waiting : Bytes}
    (opened : start.Holds pipe (.pipe { buffer := waiting })) {history : List StreamRequest}
    (kept : .close pipe ∉ history) :
    let now := start.after history
    waiting ++ sent pipe history = received pipe start history ++ now.buffered pipe ∧
      now.available? pipe = some
        (waiting.length + (sent pipe history).length - (received pipe start history).length) ∧
      now.Flows pipe (now.buffered pipe) := by
  intro now
  obtain ⟨rest, here, balanced⟩ := opened.balance_after kept
  rw [here.buffered_eq]
  refine ⟨balanced, ?_, here.flows⟩
  have lengths := congrArg List.length balanced
  rw [List.length_append, List.length_append] at lengths
  rw [here.flows.available, lengths, Nat.add_sub_cancel_left]

/-- Five bytes are written to a new pipe, and the first three are read one by two, while another
pipe is written to. -/
theorem conserved_of_new :
    let start := (({} : Streams).add (.pipe {})).2
    let history : List StreamRequest :=
      [.write ⟨0⟩ [1, 2], .read ⟨0⟩ [9], .seek ⟨0⟩ 0, .write ⟨0⟩ [3, 4, 5], .read ⟨0⟩ [],
        .add (.pipe {}), .write ⟨1⟩ [7], .read ⟨0⟩ [9, 9]]
    let now := start.after history
    received ⟨0⟩ start history = [1, 2, 3] ∧ now.buffered ⟨0⟩ = [4, 5] ∧
      (readInto ⟨0⟩ [8, 8, 8]).run now = (.ok (2, [4, 5, 8]), now.setStream ⟨0⟩ (.pipe {})) := by
  intro start history now
  have kept : StreamRequest.close ⟨0⟩ ∉ history := by simp [history]
  have opened : start.Holds ⟨0⟩ (.pipe { buffer := [] }) := holds_add {} (.pipe {})
  obtain ⟨balanced, -, flows⟩ := conserved opened kept
  have out : received ⟨0⟩ start history = [1, 2, 3] := by decide +kernel
  have left : now.buffered ⟨0⟩ = [4, 5] := by
    have whole : [1, 2, 3] ++ [4, 5] = received ⟨0⟩ start history ++ now.buffered ⟨0⟩ := balanced
    rw [out] at whole
    exact (List.append_cancel_left whole).symm
  have answer := flows.read [8, 8, 8]
  rw [left] at answer
  exact ⟨out, left, answer⟩

end Streams

end GuestBridge
