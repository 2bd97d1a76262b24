import GuestBridge.Identity
import GuestBridge.Signature

/-!
Values of guest fields, arguments and results. Floating-point values are their bit patterns and
references are object identities, so equality of values is equality of bits and of identity: two
distinct NaN patterns differ, and so do the two zeros.
-/
namespace GuestBridge

inductive Value where
  | null
  | boolean (flag : Bool)
  | byte (number : Int8)
  | char (unit : UInt16)
  | short (number : Int16)
  | int (number : Int32)
  | long (number : Int64)
  | float (bits : UInt32)
  | double (bits : UInt64)
  | ref (object : ObjectId)
  deriving DecidableEq

namespace Value

def ofObject? : Option ObjectId → Value
  | none => null
  | some object => ref object

/-- The storage kind of a value; the null reference has none of its own. -/
def kind? : Value → Option FieldKind
  | null => none
  | boolean _ => some (.primitive .boolean)
  | byte _ => some (.primitive .byte)
  | char _ => some (.primitive .char)
  | short _ => some (.primitive .short)
  | int _ => some (.primitive .int)
  | long _ => some (.primitive .long)
  | float _ => some (.primitive .float)
  | double _ => some (.primitive .double)
  | ref _ => some .reference

def kindName (value : Value) : String :=
  match value.kind? with
  | none => "null"
  | some kind => kind.keyword

/-- Whether a cell of this kind can hold the value. There are no conversions; null fits reference
cells only. -/
def fits (value : Value) (kind : FieldKind) : Bool :=
  match value.kind? with
  | none => kind == .reference
  | some own => own == kind

def object? : Value → Option ObjectId
  | ref object => some object
  | _ => none

def int? : Value → Option Int32
  | int number => some number
  | _ => none

def long? : Value → Option Int64
  | long number => some number
  | _ => none

def boolean? : Value → Option Bool
  | boolean flag => some flag
  | _ => none

end Value

/-- What a cell of this kind holds before its first write. -/
def FieldKind.zero : FieldKind → Value
  | primitive .boolean => .boolean false
  | primitive .byte => .byte 0
  | primitive .char => .char 0
  | primitive .short => .short 0
  | primitive .int => .int 0
  | primitive .long => .long 0
  | primitive .float => .float 0
  | primitive .double => .double 0
  | reference => .null

theorem FieldKind.zero_fits (kind : FieldKind) : kind.zero.fits kind = true := by
  rcases kind with (_ | _ | _ | _ | _ | _ | _ | _) | _ <;> rfl

end GuestBridge
