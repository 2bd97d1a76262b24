import GuestBridge.Native

/-!
Simple bodies for methods, native functions and constructors, for classes that are put together
from data.
-/
namespace GuestBridge

/-- What a method or a native function answers. A native function has no receiver. An argument has
a label, under which it is reported when the call lacks it. -/
inductive Behaviour where
  | constant (value : Value)
  | argument (index : Nat) (label : String)
  | receiver
  | argumentCount
  | sum
  | failure (fault : Fault)

namespace Behaviour

/-- The sum of the ints among the values, wrapping at 32 bits. -/
def sumInts (values : List Value) : Int32 :=
  values.foldl (fun total value => total + value.int?.getD 0) 0

def run (behaviour : Behaviour) (object : Option ObjectId) (arguments : List Value) :
    Except Fault Value :=
  match behaviour with
  | constant value => .ok value
  | argument index label =>
    match arguments[index]? with
    | some value => .ok value
    | none => .error (.wrongValueKind label (toString arguments.length))
  | receiver => .ok (.ofObject? object)
  | argumentCount => .ok (.int (Int32.ofNat arguments.length))
  | sum => .ok (.int (sumInts arguments))
  | failure fault => .error fault

/-- The objects that the behaviour answers with. -/
def keeps : Behaviour → List ObjectId
  | constant value => value.object?.toList
  | _ => []

def body (behaviour : Behaviour) (object : Option ObjectId) (arguments : List Value) :
    Action Heap Fault Value :=
  Action.ofExcept (behaviour.run object arguments)

def method (behaviour : Behaviour) (name signature : String) (isStatic : Bool) : HostMethod :=
  { name, signature, isStatic, body := behaviour.body, keeps := behaviour.keeps }

def native {state : Type} (behaviour : Behaviour) : NativeFunction state where
  handler arguments := Session.onWorld (World.onHeap (behaviour.body none arguments))
  keeps := behaviour.keeps

end Behaviour

/-- What a constructor does: make a plain object, make one that carries a text, store its
arguments into slots, or fail. -/
inductive Construction where
  | plain
  | withText (content : String)
  | storing (slots : List Nat)
  | failure (fault : Fault)

namespace Construction

/-- Stores the values one by one, as long as there are slots. -/
def storeAll (object : ObjectId) : List Nat → List Value → Action Heap Fault Unit
  | slot :: slots, value :: values => do
    Heap.store (.field object slot) value
    storeAll object slots values
  | _, _ => return ()

def body (construction : Construction) (origin : ClassLayout) (arguments : List Value) :
    Action Heap Fault ObjectId :=
  match construction with
  | plain => Heap.instantiate origin
  | withText content => Heap.instantiate origin (some (.text content))
  | storing slots => do
    let object ← Heap.instantiate origin
    storeAll object slots arguments
    return object
  | failure fault => throw fault

end Construction

end GuestBridge
