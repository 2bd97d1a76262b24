import GuestBridge.Native

/-!
The native functions of file channels and file descriptors. Arguments follow the guest
declarations, the receiver first where there is one. Statuses and addresses travel as signed
64-bit numbers.
-/
namespace GuestBridge.Native

variable {state : Type}

def readArguments (values : List Value) : Action (Session state) Fault Arguments := do
  return ⟨values, (← get).world.heap⟩

def initIds : NativeHandler state := fun _ => do
  return .long (← Bridge.granularity).toInt64

def map : NativeHandler state := fun values => do
  let arguments ← readArguments values
  let channel ← arguments.object 0 "map0"
  let protection ← arguments.int 1
  let position ← arguments.long 2
  let length ← arguments.long 3
  return .long (← Bridge.map channel protection position length).toInt64

def unmap : NativeHandler state := fun values => do
  let arguments ← readArguments values
  let address ← arguments.long 0
  let length ← arguments.long 1
  Bridge.unmap address.toUInt64 length.toUInt64
  return .int 0

def transfer : NativeHandler state := fun values => do
  let arguments ← readArguments values
  let source ← arguments.object 1 "transferTo0"
  let position ← arguments.long 2
  let count ← arguments.long 3
  let destination ← arguments.object 4 "transferTo0"
  return .long (← Bridge.transfer source position count destination).toRaw

def position : NativeHandler state := fun values => do
  let arguments ← readArguments values
  let descriptor ← arguments.object 1 "position0"
  let offset ← arguments.long 2
  return .long (← Bridge.position descriptor offset).toRaw

def flush : NativeHandler state := fun values => do
  let arguments ← readArguments values
  let descriptor ← arguments.object 0 "flush"
  return .boolean (← Bridge.flush descriptor)

def channelFunctions : List (String × NativeHandler state) := [
  ("sun.nio.ch.FileChannelImpl.initIDs", initIds),
  ("sun.nio.ch.FileChannelImpl.map0", map),
  ("sun.nio.ch.FileChannelImpl.unmap0", unmap),
  ("sun.nio.ch.FileChannelImpl.transferTo0", transfer),
  ("sun.nio.ch.FileChannelImpl.position0", position),
  ("java.io.FileDescriptor.flush", flush)]

end GuestBridge.Native
