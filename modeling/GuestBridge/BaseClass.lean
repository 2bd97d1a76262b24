import GuestBridge.HostClass

/-!
The classes that file natives work with: strings, wrapped streams and sockets, file descriptors,
file channels, random-access files, property tables and enumerator iterators. The first three are
shared by all registries; each registry defines the others for itself.
-/
namespace GuestBridge.BaseClass

def stringName : String := "java.lang.String"

def streamName : String := "cli.System.IO.Stream"

def socketName : String := "cli.System.Net.Sockets.Socket"

def descriptorName : String := "java.io.FileDescriptor"

def channelName : String := "sun.nio.ch.FileChannelImpl"

def randomAccessFileName : String := "java.io.RandomAccessFile"

def propertiesName : String := "java.util.Properties"

def enumeratorIteratorName : String := "corvid.lang.EnumeratorIterator"

def streamSignature : String := "Lcli.System.IO.Stream;"

def socketSignature : String := "Lcli.System.Net.Sockets.Socket;"

def descriptorSignature : String := "Ljava.io.FileDescriptor;"

def objectSignature : String := "Ljava.lang.Object;"

def getPropertySignature : String := "(Ljava.lang.String;)Ljava.lang.String;"

def setPropertySignature : String := "(Ljava.lang.String;Ljava.lang.String;)Ljava.lang.Object;"

def emptyConstructorSignature : String := "()V"

def channelConstructorSignature : String := "(Ljava.io.FileDescriptor;)V"

def iteratorConstructorSignature : String := "(Ljava.lang.Object;)V"

def stringLayout : ClassLayout := ⟨1, stringName, false, []⟩

def streamLayout : ClassLayout := ⟨2, streamName, false, []⟩

def socketLayout : ClassLayout := ⟨3, socketName, false, []⟩

/-- A fresh guest string. -/
def newString {failure : Type} (content : String) : Action Heap failure ObjectId :=
  Heap.instantiate stringLayout (some (.text content))

def wrapStream {failure : Type} (stream : StreamId) : Action Heap failure ObjectId :=
  Heap.instantiate streamLayout (some (.stream stream))

def wrapSocket {failure : Type} (socket : SocketId) : Action Heap failure ObjectId :=
  Heap.instantiate socketLayout (some (.socket socket))

def streamOf? (heap : Heap) (object : ObjectId) : Option StreamId :=
  match heap.payload? object with
  | some (.stream stream) => some stream
  | _ => none

def socketOf? (heap : Heap) (object : ObjectId) : Option SocketId :=
  match heap.payload? object with
  | some (.socket socket) => some socket
  | _ => none

/-- A constructor that only makes the object. -/
def plainConstructor (signature : String) (payload : Option Payload) : HostConstructor :=
  ⟨signature, fun origin _ => Heap.instantiate origin payload⟩

/-- A constructor that stores its first argument in the first field. -/
def storingConstructor (signature : String) : HostConstructor where
  signature
  body := fun origin arguments => do
    let object ← Heap.instantiate origin
    match arguments with
    | [] => throw (.wrongValueKind "1 argument" "0")
    | value :: _ =>
      Heap.store (.field object 0) value
      return object

/-- The property table that the receiver carries. -/
def propertyEntries (heap : Heap) (receiver : Option ObjectId) (method : String) :
    Except Fault (ObjectId × List (String × String)) :=
  match receiver with
  | none => .error (.nullReceiver method)
  | some object =>
    match heap.payload? object with
    | some (.properties entries) => .ok (object, entries)
    | _ => .error (.wrongValueKind propertiesName (heap.className object))

/-- The text of the argument at a position. -/
def textArgument (heap : Heap) (arguments : List Value) (position : Nat) (method : String) :
    Except Fault String :=
  match arguments[position]? with
  | none =>
    .error (.wrongValueKind (toString (position + 1) ++ " arguments") (toString arguments.length))
  | some .null => .error (.nullReceiver method)
  | some value =>
    match heap.text? value with
    | some text => .ok text
    | none => .error (.wrongValueKind stringName value.kindName)

/-- A fresh guest string of the text, or null without one. -/
def textValue (text : Option String) : Action Heap Fault Value :=
  match text with
  | none => return .null
  | some content => return .ref (← newString content)

def getProperty (receiver : Option ObjectId) (arguments : List Value) :
    Action Heap Fault Value := do
  let heap ← get
  let (_, entries) ← propertyEntries heap receiver "getProperty"
  let key ← textArgument heap arguments 0 "getProperty"
  textValue (entries.lookup key)

/-- Answers the value that the key had before. -/
def setProperty (receiver : Option ObjectId) (arguments : List Value) :
    Action Heap Fault Value := do
  let heap ← get
  let (object, entries) ← propertyEntries heap receiver "setProperty"
  let key ← textArgument heap arguments 0 "setProperty"
  let value ← textArgument heap arguments 1 "setProperty"
  let updated := (key, value) :: entries.filter (·.1 != key)
  set (heap.modifyObject object fun record => { record with payload := some (.properties updated) })
  textValue (entries.lookup key)

def descriptor : ClassDefinition where
  name := descriptorName
  fields := [
    ⟨"stream", streamSignature, { isVolatile := true }⟩,
    ⟨"socket", socketSignature, { isVolatile := true }⟩]
  constructors := [plainConstructor emptyConstructorSignature none]

def channel : ClassDefinition where
  name := channelName
  fields := [⟨"fd", descriptorSignature, { isFinal := true }⟩]
  constructors := [storingConstructor channelConstructorSignature]

def randomAccessFile : ClassDefinition where
  name := randomAccessFileName
  fields := [⟨"fd", descriptorSignature, {}⟩]
  constructors := [plainConstructor emptyConstructorSignature none]

def properties : ClassDefinition where
  name := propertiesName
  methods := [
    ⟨"getProperty", getPropertySignature, false, getProperty, []⟩,
    ⟨"setProperty", setPropertySignature, false, setProperty, []⟩]
  constructors := [plainConstructor emptyConstructorSignature (some (.properties []))]

def enumeratorIterator : ClassDefinition where
  name := enumeratorIteratorName
  fields := [⟨"enumerator", objectSignature, { isFinal := true }⟩]
  constructors := [storingConstructor iteratorConstructorSignature]

/-- The classes that each registry defines for itself. -/
def definitions : List ClassDefinition :=
  [descriptor, channel, randomAccessFile, properties, enumeratorIterator]

def shared : List HostClass :=
  [stringLayout, streamLayout, socketLayout].map (⟨·, [], []⟩)

/-- The registry with all base classes added. -/
def addTo (registry : ClassRegistry) : Action Heap Fault ClassRegistry :=
  definitions.foldlM (fun known definition => return known.register (← definition.define))
    (shared.foldl .register registry)

end GuestBridge.BaseClass
