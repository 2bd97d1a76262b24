import GuestBridge.SystemError

/-!
What the kernel decides beyond what handles, names and contents do: how far a file may reach, and
how many bytes one call moves. A call can fail at any time, also one like an earlier one that did
not, and it can move fewer bytes than it was given.
-/
namespace GuestBridge.Posix

/-- Positions are signed 64-bit numbers to the system. -/
def positionLimit : Nat := Nat.pow 2 63

/-- Calls that move bytes are told how many such calls there were before them, and where they start
in a file that they write to. A transfer is decided on twice before it moves bytes: whether it can
be asked for at all, and whether it can be begun to a target that can be written to. -/
structure Kernel where
  seeks : (target : Nat) → Except SystemError Unit
  resizes : (size : Nat) → Except SystemError Unit
  writes : (calls start ready : Nat) → Except SystemError Nat
  asks : (position count : Nat) → Except SystemError Unit
  begins : (position count : Nat) → Except SystemError Unit
  sends : (calls position ready : Nat) → (start? : Option Nat) → Except SystemError Nat
  writes_le : ∀ {calls start ready taken}, writes calls start ready = .ok taken → taken ≤ ready
  sends_le : ∀ {calls position ready start? sent},
    sends calls position ready start? = .ok sent → sent ≤ ready
  -- Whoever writes a whole buffer makes an interrupted call again, until it is not.
  writes_uninterrupted : ∀ calls start ready, writes calls start ready ≠ .error .interrupted

namespace Kernel

def unlimited : Kernel where
  seeks _ := .ok ()
  resizes _ := .ok ()
  writes _ _ ready := .ok ready
  asks _ _ := .ok ()
  begins _ _ := .ok ()
  sends _ _ ready _ := .ok ready
  writes_le taken := by cases taken; exact Nat.le_refl _
  sends_le sent := by cases sent; exact Nat.le_refl _
  writes_uninterrupted _ _ _ := nofun

/-- How many of the bytes that are ready a file has room for that must not outgrow a size. -/
def fitting (largest start ready : Nat) : Except SystemError Nat :=
  if largest ≤ start then .error .fileTooLarge else .ok (min ready (largest - start))

theorem fitting_le {largest start ready taken : Nat}
    (fits : fitting largest start ready = .ok taken) : taken ≤ ready := by
  unfold fitting at fits
  split at fits <;> cases fits
  exact Nat.min_le_left ..

theorem fitting_uninterrupted (largest start ready : Nat) :
    fitting largest start ready ≠ .error .interrupted := by
  unfold fitting
  split <;> simp [SystemError.fileTooLarge, SystemError.interrupted]

/-- Moves all that a file has room for, where no file can be larger than a size. -/
def limited (largest : Nat) : Kernel where
  seeks target := if largest < target then .error .invalidArgument else .ok ()
  resizes size := if largest < size then .error .fileTooLarge else .ok ()
  writes _ start ready := fitting largest start ready
  asks position count :=
    if positionLimit ≤ position + count then .error .invalidArgument else .ok ()
  begins position count :=
    if largest < position + count ∧ largest ≤ position then .error .valueTooLarge else .ok ()
  sends _ _ ready start? :=
    match start? with
    | some start => fitting largest start ready
    | none => .ok ready
  writes_le := fitting_le
  sends_le {_ _ _ start? _} sent := by
    cases start? with
    | some start => exact fitting_le sent
    | none => cases sent; exact Nat.le_refl _
  writes_uninterrupted _ := fitting_uninterrupted largest

end Kernel

end GuestBridge.Posix
