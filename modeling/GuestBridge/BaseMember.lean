import GuestBridge.Accessor.Table
import GuestBridge.BaseClass

/-!
Members of the base classes, reached through a table of accessors. Each operation resolves its
member on first use; results that should be objects or strings are checked to be.
-/
namespace GuestBridge

inductive BaseMember where
  | descriptorStream
  | descriptorSocket
  | newDescriptor
  | channelDescriptor
  | newChannel
  | fileDescriptor
  | getProperty
  | setProperty
  | newEnumeratorIterator
  deriving DecidableEq

namespace BaseMember

open BaseClass

/-- In slot order. -/
def all : List BaseMember := [
  descriptorStream, descriptorSocket, newDescriptor, channelDescriptor, newChannel,
  fileDescriptor, getProperty, setProperty, newEnumeratorIterator]

def slot : BaseMember → Nat
  | descriptorStream => 0
  | descriptorSocket => 1
  | newDescriptor => 2
  | channelDescriptor => 3
  | newChannel => 4
  | fileDescriptor => 5
  | getProperty => 6
  | setProperty => 7
  | newEnumeratorIterator => 8

def spec : BaseMember → MemberSpec
  | descriptorStream => .ofField descriptorName "stream" streamSignature
  | descriptorSocket => .ofField descriptorName "socket" socketSignature
  | newDescriptor => .ofConstructor descriptorName emptyConstructorSignature
  | channelDescriptor => .ofField channelName "fd" descriptorSignature
  | newChannel => .ofConstructor channelName channelConstructorSignature
  | fileDescriptor => .ofField randomAccessFileName "fd" descriptorSignature
  | getProperty => .ofMethod propertiesName "getProperty" getPropertySignature
  | setProperty => .ofMethod propertiesName "setProperty" setPropertySignature
  | newEnumeratorIterator => .ofConstructor enumeratorIteratorName iteratorConstructorSignature

/-- The table of the base members, none of them resolved. -/
def table : AccessorTable := .declare (all.map spec)

end BaseMember

/-- Looks a class up in a registry, which stays as it is. -/
def ClassRegistry.find (name : String) : Action ClassRegistry Fault HostClass := do
  (← get).resolve name

/-- What the base members work on: their accessors, the classes those resolve against, and the
heap. -/
structure MemberSpace where
  table : AccessorTable := BaseMember.table
  types : ClassRegistry
  heap : Heap

namespace MemberSpace

def accessors : Focus MemberSpace (AccessorTable × ClassRegistry) :=
  ⟨fun space => (space.table, space.types),
    fun after space => { space with table := after.1, types := after.2 }⟩

def onHeap {result : Type} (action : Action Heap Fault result) : Action MemberSpace Fault result :=
  action.within ⟨heap, fun after space => { space with heap := after }⟩

def getObject (member : BaseMember) (owner : ObjectId) :
    Action MemberSpace Fault (Option ObjectId) := do
  let field ← (AccessorTable.field ClassRegistry.find member.slot).within accessors
  let value ← onHeap (field.get .plain (some owner))
  value.toObject

def setObject (member : BaseMember) (owner : ObjectId) (target : Option ObjectId) :
    Action MemberSpace Fault Unit := do
  let field ← (AccessorTable.field ClassRegistry.find member.slot).within accessors
  onHeap (field.set .plain (some owner) (.ofObject? target))

def construct (member : BaseMember) (arguments : List Value) :
    Action MemberSpace Fault ObjectId := do
  let constructor ← (AccessorTable.constructor ClassRegistry.find member.slot).within accessors
  onHeap (constructor.invoke arguments)

/-- Calls a method whose result is a string or null. -/
def callForText (member : BaseMember) (receiver : ObjectId) (arguments : List Value) :
    Action MemberSpace Fault (Option String) := do
  let method ← (AccessorTable.method ClassRegistry.find member.slot).within accessors
  let value ← onHeap (method.invoke (some receiver) arguments)
  match value, (← get).heap.text? value with
  | .null, _ => return none
  | _, some text => return some text
  | other, none => throw (.wrongValueKind BaseClass.stringName other.kindName)

def newDescriptor : Action MemberSpace Fault ObjectId := construct .newDescriptor []

def descriptorStream (descriptor : ObjectId) : Action MemberSpace Fault (Option ObjectId) :=
  getObject .descriptorStream descriptor

def setDescriptorStream (descriptor : ObjectId) (stream : Option ObjectId) :
    Action MemberSpace Fault Unit :=
  setObject .descriptorStream descriptor stream

def descriptorSocket (descriptor : ObjectId) : Action MemberSpace Fault (Option ObjectId) :=
  getObject .descriptorSocket descriptor

def setDescriptorSocket (descriptor : ObjectId) (socket : Option ObjectId) :
    Action MemberSpace Fault Unit :=
  setObject .descriptorSocket descriptor socket

def newChannel (descriptor : ObjectId) : Action MemberSpace Fault ObjectId :=
  construct .newChannel [.ref descriptor]

def channelDescriptor (channel : ObjectId) : Action MemberSpace Fault (Option ObjectId) :=
  getObject .channelDescriptor channel

def fileDescriptor (file : ObjectId) : Action MemberSpace Fault (Option ObjectId) :=
  getObject .fileDescriptor file

def setFileDescriptor (file : ObjectId) (descriptor : Option ObjectId) :
    Action MemberSpace Fault Unit :=
  setObject .fileDescriptor file descriptor

/-- The value of a key of a property table. -/
def property (properties : ObjectId) (key : String) :
    Action MemberSpace Fault (Option String) := do
  let key ← onHeap (BaseClass.newString key)
  callForText .getProperty properties [.ref key]

/-- Sets the value of a key and answers the one before. -/
def setProperty (properties : ObjectId) (key value : String) :
    Action MemberSpace Fault (Option String) := do
  let key ← onHeap (BaseClass.newString key)
  let value ← onHeap (BaseClass.newString value)
  callForText .setProperty properties [.ref key, .ref value]

def newEnumeratorIterator (source : Option ObjectId) : Action MemberSpace Fault ObjectId :=
  construct .newEnumeratorIterator [.ofObject? source]

end MemberSpace

end GuestBridge
