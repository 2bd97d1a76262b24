/-!
The three protections of a mapped file view, and their guest codes.
-/
namespace GuestBridge

/-- Protection of a mapped view. Writes through a copy-on-write view never reach the file. -/
inductive MapMode where
  | readOnly
  | readWrite
  | copyOnWrite
  deriving DecidableEq

namespace MapMode

def code : MapMode → Int32
  | readOnly => 0
  | readWrite => 1
  | copyOnWrite => 2

def ofCode? (code : Int32) : Option MapMode :=
  if code = 0 then some readOnly
  else if code = 1 then some readWrite
  else if code = 2 then some copyOnWrite
  else none

def isWritable : MapMode → Bool
  | readOnly => false
  | readWrite | copyOnWrite => true

end MapMode

end GuestBridge
