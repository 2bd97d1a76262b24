import GuestBridge.Backend.Recorded
import GuestBridge.Decimal.Notation
import GuestBridge.Native
import GuestBridge.Stream
import GuestBridge.Text.Quoted

/-!
Texts for inspection. A record is its name and its fields between braces, a list stands between
brackets, a choice is its name with its content between parentheses, and strings are quoted.
-/
namespace GuestBridge

namespace Inspect

def commaList (texts : List String) : String := ", ".intercalate texts

def list (texts : List String) : String := "[" ++ commaList texts ++ "]"

def choice (name content : String) : String := name ++ "(" ++ content ++ ")"

def record (name : String) (fields : List (String × String)) : String :=
  name ++ " \x7b " ++ commaList (fields.map fun field => field.1 ++ ": " ++ field.2) ++ " \x7d"

def flag (value : Bool) : String := if value then "true" else "false"

end Inspect

open Inspect Text

def PrimitiveKind.inspect : PrimitiveKind → String
  | boolean => "Boolean"
  | byte => "Byte"
  | char => "Char"
  | short => "Short"
  | int => "Int"
  | long => "Long"
  | float => "Float"
  | double => "Double"

def FieldKind.inspect : FieldKind → String
  | primitive kind => choice "Primitive" kind.inspect
  | reference => "Reference"

def MapMode.inspect : MapMode → String
  | readOnly => "ReadOnly"
  | readWrite => "ReadWrite"
  | copyOnWrite => "Private"

def GuestType.inspect (type : GuestType) : String := choice "GuestTypeTag" type.name

def FieldModifiers.inspect (modifiers : FieldModifiers) : String :=
  record "FieldModifiers" [
    ("is_static", flag modifiers.isStatic),
    ("is_final", flag modifiers.isFinal),
    ("is_volatile", flag modifiers.isVolatile)]

def HostField.parts (field : HostField) : List (String × String) := [
  ("name", quoted field.name),
  ("signature", quoted field.signature),
  ("kind", field.kind.inspect),
  ("modifiers", field.modifiers.inspect),
  ("slot", toString field.slot)]

def HostField.inspect (field : HostField) : String := record "HostField" field.parts

def HostMethod.inspect (method : HostMethod) : String :=
  choice "HostMethod" (method.name ++ method.signature)

def HostConstructor.inspect (constructor : HostConstructor) : String :=
  choice "HostConstructor" ("<init>" ++ constructor.signature)

def HostClass.inspect (owner : HostClass) : String :=
  record "HostClass" [
    ("name", quoted owner.name),
    ("value_type", flag owner.layout.isValueType),
    ("fields", list (owner.layout.fields.map HostField.inspect)),
    ("methods", list (owner.methods.map HostMethod.inspect)),
    ("constructors", list (owner.constructors.map HostConstructor.inspect))]

def BoundField.inspect (field : BoundField) : String :=
  record "FieldDescriptor" (("declaring", field.declaring.inspect) :: field.field.parts)

def HostObject.inspect (object : HostObject) : String :=
  record "HostObject" [
    ("class", quoted object.origin.name),
    ("fields", toString object.cells.size),
    ("payload", flag object.payload.isSome)]

def Value.inspect (heap : Heap) : Value → String
  | null => "Null"
  | boolean value => choice "Boolean" (flag value)
  | byte number => choice "Byte" (toString number.toInt)
  | char unit => choice "Char" (toString unit.toNat)
  | short number => choice "Short" (toString number.toInt)
  | int number => choice "Int" (toString number.toInt)
  | long number => choice "Long" (toString number.toInt)
  | float bits => choice "Float" (Decimal.single.render bits.toNat)
  | double bits => choice "Double" (Decimal.double.render bits.toNat)
  | ref object => choice "Ref" (heap.object object).inspect

/-- A floating-point cell shows its bits, a reference cell the class of the object in it. -/
def Cell.inspect (heap : Heap) (cell : Cell) : String :=
  match cell.content with
  | .null => choice "Object" (choice "ObjectSlot" "null")
  | .ref object => choice "Object" (choice "ObjectSlot" (heap.className object))
  | .float bits => choice "Float" (toString bits.toNat)
  | .double bits => choice "Double" (toString bits.toNat)
  | other => other.inspect heap

def FileStream.inspect (file : FileStream) : String :=
  record "FileStream" [
    ("path", quotedName file.path.toUTF8.toList),
    ("append", flag file.appends),
    ("closed", flag file.handle.isNone)]

def Pipe.inspect (pipe : Pipe) : String :=
  record "PipeStream" [
    ("buffer", record "Mutex" [
      ("data", list (pipe.buffer.map fun byte => toString byte.toNat))]),
    ("closed", flag pipe.closed)]

def Stream.inspect : Stream → String
  | file known => known.inspect
  | pipe known => known.inspect
  | device known => record "Device" [("closed", flag known.closed)]

def MappedRegion.inspect (region : MappedRegion) : String :=
  record "MappedRegion" [
    ("address", Bridge.hexadecimal region.address),
    ("len", toString region.length.toNat),
    ("mode", region.mode.inspect)]

def AccessorTable.inspect (table : AccessorTable) : String :=
  record "AccessorTable" [
    ("members", toString table.size),
    ("resolved", toString table.resolvedSize)]

def BridgeOptions.inspect (options : BridgeOptions) : String :=
  record "BridgeOptions" [
    ("read_ahead", flag options.readsAhead),
    ("transmit_packet_size", toString options.transmitPacketSize.toNat)]

def Bridge.inspect {state : Type} (bridge : Bridge state) : String :=
  record "Bridge" [
    ("platform", quoted bridge.backend.name),
    ("options", bridge.options.inspect),
    ("types", toString bridge.types.size),
    ("mapped_regions", toString bridge.regions.length)]

def NativeLibrary.inspect {state : Type} (library : NativeLibrary) (backend : Backend state) :
    String :=
  record "NativeLibrary" [
    ("path", quoted library.path),
    ("handle", choice "LibraryHandle" (toString library.handle.raw.toNat)),
    ("platform", quoted backend.name)]

/-- Names in ascending order of their code points. -/
def NativeRegistry.inspect {state : Type} (registry : NativeRegistry state) : String :=
  let sorted := registry.names.mergeSort fun left right => !decide (right < left)
  record "NativeFunctionRegistry" [("natives", list (sorted.map quoted))]

def LinkedNatives.inspect {state : Type} (linked : LinkedNatives state) : String :=
  record "ResolvedNatives" [("names", list (linked.names.map quoted))]

def Access.Ordering.inspect : Access.Ordering → String
  | plain => "Plain"
  | volatile => "Volatile"

def Access.Step.inspect : Access.Step → String
  | loadStatic => "LoadStatic"
  | loadReceiver => "LoadReceiver"
  | unbox => "Unbox"
  | memoryBarrier => "MemoryBarrier"
  | loadAddress => "LoadAddress"
  | load ordering => choice "Load" ordering.inspect
  | store ordering => choice "Store" ordering.inspect
  | loadIndirect ordering => choice "LoadIndirect" ordering.inspect
  | storeIndirect ordering => choice "StoreIndirect" ordering.inspect
  | volatileRead width => choice "VolatileRead" width.inspect
  | volatileWrite width => choice "VolatileWrite" width.inspect
  | compareExchange kind => choice "CompareExchange" kind.inspect

/-- A call to a backend as words: its name, then its arguments. -/
def BackendCall.words : BackendCall → List String
  | granularity => ["granularity"]
  | readAhead _ offset length => ["read_ahead", toString offset.toNat, toString length.toNat]
  | map _ mode offset length _ =>
    ["map", mode.inspect, toString offset.toNat, toString length.toNat]
  | unmap address length => ["unmap", toString address.toNat, toString length.toNat]
  | transfer _ position count (.socket _) =>
    ["transfer", toString position.toNat, toString count.toNat, "Socket"]
  | transfer _ position count (.file _) =>
    ["transfer", toString position.toNat, toString count.toNat, "File"]
  | load path _ => ["load", path]
  | free handle => ["free", toString handle.raw.toNat]
  | resolve handle name => ["resolve", toString handle.raw.toNat, name]

end GuestBridge
