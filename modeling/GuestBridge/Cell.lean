import GuestBridge.Fault
import GuestBridge.Value

/-!
Storage cells. A cell has a kind for ever and always holds a value of that kind; a row of cells
has the kinds that its class laid out. A store or an exchange with a value of another kind fails
and changes nothing.
-/
namespace GuestBridge

structure Cell where
  kind : FieldKind
  content : Value
  fits : content.fits kind = true
  deriving DecidableEq

namespace Cell

def zero (kind : FieldKind) : Cell := ⟨kind, kind.zero, kind.zero_fits⟩

def mismatch (cell : Cell) (value : Value) : Fault :=
  .wrongValueKind cell.kind.keyword value.kindName

def store (cell : Cell) (value : Value) : Except Fault Cell :=
  if fits : value.fits cell.kind = true then .ok ⟨cell.kind, value, fits⟩
  else .error (cell.mismatch value)

/-- Writes the update if the cell holds the expected value, and says whether it did. A misfitting
operand fails, the expected one first. -/
def exchange (cell : Cell) (expected update : Value) : Except Fault (Bool × Cell) :=
  if cell.kind.isExchangeable = false then .error (.unsupportedExchange cell.kind.keyword)
  else if expected.fits cell.kind = false then .error (cell.mismatch expected)
  else if fits : update.fits cell.kind = true then
    if cell.content = expected then .ok (true, ⟨cell.kind, update, fits⟩) else .ok (false, cell)
  else .error (cell.mismatch update)

end Cell

/-- A row of cells with these kinds. -/
structure Cells (kinds : List FieldKind) where
  toList : List Cell
  kinds_eq : toList.map Cell.kind = kinds

namespace Cells

variable {kinds : List FieldKind}

def zero (kinds : List FieldKind) : Cells kinds :=
  ⟨kinds.map Cell.zero, by simp [Function.comp_def, Cell.zero]⟩

def size (cells : Cells kinds) : Nat := cells.toList.length

def get? (cells : Cells kinds) (slot : Nat) : Option Cell := cells.toList[slot]?

/-- Puts a cell into a slot of its kind; a slot of another kind, or none, leaves the row as it
is. -/
def set (cells : Cells kinds) (slot : Nat) (cell : Cell) : Cells kinds :=
  if sameKind : kinds[slot]? = some cell.kind then
    ⟨cells.toList.set slot cell, by
      rw [List.map_set, cells.kinds_eq]
      obtain ⟨bound, atSlot⟩ := List.getElem?_eq_some_iff.1 sameKind
      rw [← atSlot, List.set_getElem_self]⟩
  else cells

end Cells

end GuestBridge
