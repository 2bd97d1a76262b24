/-!
Statuses of guest transfers and seeks, and their encoding as one signed 64-bit number: a count is
itself, every other status a small negative code. The code −5 stands for a raised exception and
is no status.
-/
namespace GuestBridge

inductive IoStatus where
  | ok (count : UInt64)
  | endOfFile
  | unsupported
  | unsupportedCase
  | unavailable
  | interrupted
  deriving DecidableEq

namespace IoStatus

/-- The largest count that the guest's signed number can hold. -/
def largestCount : UInt64 := 0x7fffffffffffffff

/-- A count beyond the signed range is reported as the largest one in it. -/
def toRaw : IoStatus → Int64
  | ok count => (if count ≤ largestCount then count else largestCount).toInt64
  | endOfFile => -1
  | unavailable => -2
  | interrupted => -3
  | unsupported => -4
  | unsupportedCase => -6

def ofRaw? (raw : Int64) : Option IoStatus :=
  if 0 ≤ raw then some (ok raw.toUInt64)
  else if raw = -1 then some endOfFile
  else if raw = -2 then some unavailable
  else if raw = -3 then some interrupted
  else if raw = -4 then some unsupported
  else if raw = -6 then some unsupportedCase
  else none

def count? : IoStatus → Option UInt64
  | ok count => some count
  | _ => none

def isOk (status : IoStatus) : Bool := status.count?.isSome

end IoStatus

end GuestBridge
