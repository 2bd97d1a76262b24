import GuestBridge.Identity

/-!
Counters of memory held outside the heap. Adding wraps at 64 bits; removing stops at zero.
-/
namespace GuestBridge

namespace MemoryPressure

def add (held bytes : UInt64) : UInt64 := held + bytes

def remove (held bytes : UInt64) : UInt64 := if bytes ≤ held then held - bytes else 0

theorem toNat_add {held bytes : UInt64} (fits : held.toNat + bytes.toNat < UInt64.size) :
    (add held bytes).toNat = held.toNat + bytes.toNat := by
  rw [add, UInt64.toNat_add]
  exact Nat.mod_eq_of_lt fits

theorem toNat_remove (held bytes : UInt64) :
    (remove held bytes).toNat = held.toNat - bytes.toNat := by
  unfold remove
  split
  case isTrue enough => exact UInt64.toNat_sub_of_le _ _ enough
  case isFalse short =>
    have less : held.toNat < bytes.toNat := by simpa [UInt64.le_iff_toNat_le] using short
    exact (Nat.sub_eq_zero_of_le (Nat.le_of_lt less)).symm

end MemoryPressure

/-- All counters. One that was never made holds nothing. -/
structure Counters where
  held : Array UInt64 := #[]

namespace Counters

def make (counters : Counters) : CounterId × Counters :=
  (⟨counters.held.size⟩, ⟨counters.held.push 0⟩)

def current (counters : Counters) (counter : CounterId) : UInt64 :=
  counters.held[counter.index]?.getD 0

def add (counters : Counters) (counter : CounterId) (bytes : UInt64) : Counters :=
  ⟨counters.held.modify counter.index (MemoryPressure.add · bytes)⟩

def remove (counters : Counters) (counter : CounterId) (bytes : UInt64) : Counters :=
  ⟨counters.held.modify counter.index (MemoryPressure.remove · bytes)⟩

@[simp] theorem size_add (counters : Counters) (counter : CounterId) (bytes : UInt64) :
    (counters.add counter bytes).held.size = counters.held.size := by
  simp [add]

@[simp] theorem size_remove (counters : Counters) (counter : CounterId) (bytes : UInt64) :
    (counters.remove counter bytes).held.size = counters.held.size := by
  simp [remove]

theorem current_add {counters : Counters} {counter : CounterId} (bytes : UInt64)
    (made : counter.index < counters.held.size) :
    (counters.add counter bytes).current counter =
      MemoryPressure.add (counters.current counter) bytes := by
  simp [add, current, made, Array.getElem_modify]

theorem current_remove {counters : Counters} {counter : CounterId} (bytes : UInt64)
    (made : counter.index < counters.held.size) :
    (counters.remove counter bytes).current counter =
      MemoryPressure.remove (counters.current counter) bytes := by
  simp [remove, current, made, Array.getElem_modify]

theorem current_add_of_ne {counters : Counters} {counter other : CounterId} (bytes : UInt64)
    (different : other ≠ counter) :
    (counters.add counter bytes).current other = counters.current other := by
  have index : counter.index ≠ other.index := fun same => different (congrArg CounterId.mk same).symm
  simp [add, current, Array.getElem?_modify, index]

theorem current_remove_of_ne {counters : Counters} {counter other : CounterId} (bytes : UInt64)
    (different : other ≠ counter) :
    (counters.remove counter bytes).current other = counters.current other := by
  have index : counter.index ≠ other.index := fun same => different (congrArg CounterId.mk same).symm
  simp [remove, current, Array.getElem?_modify, index]

end Counters

end GuestBridge
