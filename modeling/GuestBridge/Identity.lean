/-!
Identities of the things that guest values, streams and transfers refer to. None is ever used
twice.
-/
namespace GuestBridge

structure ObjectId where
  index : Nat
  deriving DecidableEq

/-- A stream that host objects and channels share. -/
structure StreamId where
  index : Nat
  deriving DecidableEq

/-- A socket that host objects and transfers share. -/
structure SocketId where
  index : Nat
  deriving DecidableEq

structure CounterId where
  index : Nat
  deriving DecidableEq

end GuestBridge
