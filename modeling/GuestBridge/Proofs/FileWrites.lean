import GuestBridge.Posix.System

/-!
Writes through open handles. A call that is not refused puts a piece of its bytes into one file, at
the handle's cursor or at the end of the file, and moves that one cursor behind them. A whole buffer
is written piece by piece, until it is used up or a call is refused.
-/
namespace GuestBridge

namespace Bytes

/-- What a file holds after a write. Writing nothing fills no gap. -/
def written (content : Bytes) (position : Nat) (bytes : Bytes) : Bytes :=
  if bytes = [] then content else content.overwrite position bytes

theorem written_nil (content : Bytes) (position : Nat) : content.written position [] = content :=
  if_pos rfl

theorem overwrite_behind (front back bytes : Bytes) :
    Bytes.overwrite (front ++ back) front.length bytes =
      front ++ bytes ++ back.drop bytes.length := by
  have noGap : front.length - (front ++ back).length = 0 := by
    rw [List.length_append]
    omega
  rw [overwrite, List.take_left, noGap, List.replicate_zero, List.append_nil,
    List.drop_length_add_append]

theorem overwrite_at_end (content bytes : Bytes) :
    content.overwrite content.length bytes = content ++ bytes := by
  simpa using overwrite_behind content [] bytes

/-- A second write that starts where the first one stopped. -/
theorem overwrite_overwrite (content first second : Bytes) (position : Nat) :
    (content.overwrite position first).overwrite (position + first.length) second =
      content.overwrite position (first ++ second) := by
  let front := content.take position ++ List.replicate (position - content.length) 0 ++ first
  let back := content.drop (position + first.length)
  have stop : position + first.length = front.length := by
    simp only [front, List.length_append, List.length_take, List.length_replicate]
    omega
  have onward : back.drop second.length = content.drop (position + (first ++ second).length) := by
    rw [List.drop_drop, List.length_append, Nat.add_assoc]
  calc (content.overwrite position first).overwrite (position + first.length) second
      = Bytes.overwrite (front ++ back) front.length second := by rw [stop]; rfl
    _ = front ++ second ++ back.drop second.length := overwrite_behind front back second
    _ = content.overwrite position (first ++ second) := by
      rw [onward, overwrite, ← List.append_assoc _ first second]

theorem written_written (content first second : Bytes) (position : Nat) :
    (content.written position first).written (position + first.length) second =
      content.written position (first ++ second) := by
  unfold written
  by_cases none : first = []
  · subst none
    simp
  by_cases last : second = []
  · subst last
    simp
  rw [if_neg none, if_neg last, if_neg (by simp [none]), overwrite_overwrite]

/-- Writing what comes next of some bytes behind the part of them that was written. -/
theorem written_onward (content rest : Bytes) (position sent : Nat) {passed : Nat}
    (enough : passed ≤ rest.length) :
    (content.written position (rest.take passed)).written (position + passed)
        ((rest.drop passed).take sent) =
      content.written position (rest.take (passed + sent)) := by
  have length : (rest.take passed).length = passed := List.length_take_of_le enough
  have onward := written_written content (rest.take passed) ((rest.drop passed).take sent) position
  rwa [length, ← List.take_add] at onward

end Bytes

namespace Posix

namespace Content

theorem size_take (content : Content) (count : Nat) :
    (content.take count).size = min count content.size := by
  rw [← length_toList, toList_take, List.length_take, length_toList]

theorem size_drop (content : Content) (count : Nat) :
    (content.drop count).size = content.size - count := by
  rw [← length_toList, toList_drop, List.length_drop, length_toList]

end Content

namespace Kernel

/-- What becomes of a buffer that is written from a place on, one call after the other: how many of
its bytes are taken, and how that ends. No more calls are made than a number. -/
def accept (kernel : Kernel) :
    (limit calls start ready : Nat) → Nat × Except SystemError Unit
  | 0, _, _, _ => (0, .ok ())
  | limit + 1, calls, start, ready =>
    if ready = 0 then (0, .ok ())
    else
      match kernel.writes calls start ready with
      | .error cause => (0, .error cause)
      | .ok taken =>
        if taken = 0 then (0, .error System.nothingWritten)
        else
          let rest := accept kernel limit (calls + 1) (start + taken) (ready - taken)
          (taken + rest.1, rest.2)

/-- Every call takes all that it is given, unless it fails. -/
def TakesWhole (kernel : Kernel) : Prop :=
  ∀ calls start ready taken, kernel.writes calls start ready = .ok taken → taken = ready

variable {kernel : Kernel} {limit calls start ready : Nat} {cause : SystemError}

/-- Unless a call fails, all bytes are taken in the end. -/
theorem accept_all (enough : ready ≤ limit)
    (accepted : (kernel.accept limit calls start ready).2 = .ok ()) :
    (kernel.accept limit calls start ready).1 = ready := by
  fun_induction kernel.accept limit calls start ready with
  | case1 => omega
  | case2 => rfl
  | case3 => cases accepted
  | case4 => cases accepted
  | case5 limit calls start ready some taken answered _ rest ih =>
    have bounded := kernel.writes_le answered
    have onward : rest.1 = ready - taken := ih (by omega) accepted
    dsimp only
    omega

theorem accept_none (whole : kernel.TakesWhole)
    (failed : (kernel.accept limit calls start ready).2 = .error cause) :
    (kernel.accept limit calls start ready).1 = 0 := by
  fun_induction kernel.accept limit calls start ready with
  | case1 => rfl
  | case2 => rfl
  | case3 => rfl
  | case4 => rfl
  -- A call that takes all leaves nothing for a later one to fail on.
  | case5 limit calls start ready _ taken answered _ rest =>
    have nothing : rest = (0, .ok ()) := by
      simp only [rest, whole _ _ _ _ answered, Nat.sub_self]
      cases limit <;> rfl
    rw [nothing] at failed
    cases failed

end Kernel

namespace System

variable {system : System} {handle other : HandleId} {file : FileId} {opened : OpenFile}
  {start : Nat} {bytes : Content}

theorem content_put_same (present : file.index < system.files.size) :
    ((system.put handle file start bytes).content file).toList =
      (system.content file).toList.overwrite start bytes.toList := by
  have known : system.files[file.index]? = some system.files[file.index] :=
    Array.getElem?_eq_getElem present
  have changed : (system.put handle file start bytes).files[file.index]? =
      some (system.files[file.index].write start bytes) := by
    rw [put, setCursor, changeFile, Array.getElem?_modify, if_pos rfl, known, Option.map_some]
  rw [content, stored, changed, content, stored, known]
  exact Content.toList_overwrite ..

theorem stored_put_ne {known : FileId} (different : file ≠ known) :
    (system.put handle file start bytes).stored known = system.stored known := by
  have apart : file.index ≠ known.index := fun same => different (congrArg FileId.mk same)
  rw [stored, put, setCursor, changeFile, Array.getElem?_modify, if_neg apart]
  rfl

theorem content_put_ne {known : FileId} (different : file ≠ known) :
    (system.put handle file start bytes).content known = system.content known :=
  congrArg StoredFile.content (stored_put_ne different)

theorem handles_put_same (here : system.handles[handle.index]? = some opened) :
    (system.put handle file start bytes).handles[handle.index]? =
      some { opened with cursor := start + bytes.size } := by
  rw [put, setCursor, Array.getElem?_modify, if_pos rfl]
  exact congrArg (Option.map _) here

theorem handles_put_ne (different : handle ≠ other) :
    (system.put handle file start bytes).handles[other.index]? = system.handles[other.index]? := by
  have apart : handle.index ≠ other.index := fun same => different (congrArg HandleId.mk same)
  rw [put, setCursor, Array.getElem?_modify, if_neg apart]
  rfl

@[simp] theorem size_files_put :
    (system.put handle file start bytes).files.size = system.files.size :=
  Array.size_modify ..

theorem run_lookHandle (here : system.handles[handle.index]? = some opened) :
    (lookHandle handle).run system = (.ok opened, system) := by
  simp [lookHandle, Action.run_bind, here]

/-- The system once a call has taken so many of the bytes. -/
def took (system : System) (handle : HandleId) (opened : OpenFile) (bytes : Content)
    (taken : Nat) : System :=
  if 0 < taken then
    system.called.put handle opened.file (system.writeStart opened) (bytes.take taken)
  else system.called

theorem run_writeSome (here : system.handles[handle.index]? = some opened)
    (writable : opened.writable = true) :
    (writeSome handle bytes).run system =
      match system.kernel.writes system.calls (system.writeStart opened) bytes.size with
      | .ok taken => (.ok taken, system.took handle opened bytes taken)
      | .error cause => (.error cause, system.called) := by
  simp only [writeSome, Action.run_bind, run_lookHandle here, writable, Bool.not_true,
    Bool.false_eq_true, if_false, Action.run_get, Action.run_modify, Action.run_liftM]
  rcases system.kernel.writes system.calls (system.writeStart opened) bytes.size with
    cause | taken
  · rfl
  · unfold took
    by_cases some : 0 < taken <;> simp only [some, if_true, if_false] <;> rfl

end System

end Posix

end GuestBridge
