import GuestBridge.Bridge

/-!
Native functions that guest code calls by name, and their linking. A registry holds one function
for each name, the last one registered. Linking takes the functions of a list of names at one
moment, all or none; a linked call goes by position. Positions are 16-bit numbers, so a name
declared beyond them has no position.
-/
namespace GuestBridge

/-- What a native function does with its arguments. -/
abbrev NativeHandler (state : Type) : Type := List Value → Action (Session state) Fault Value

/-- A native function: what it does, and the objects that it keeps for its answers. -/
structure NativeFunction (state : Type) where
  handler : NativeHandler state
  keeps : List ObjectId := []

structure NativeRegistry (state : Type) where
  functions : List (String × NativeFunction state) := []

/-- The failure of asking for a native function that is not there. -/
def unsatisfied (name : String) : Fault := .library (.symbolNotFound name "native registry")

namespace NativeRegistry

variable {state : Type}

def function? (registry : NativeRegistry state) (name : String) : Option (NativeFunction state) :=
  registry.functions.lookup name

def handler? (registry : NativeRegistry state) (name : String) : Option (NativeHandler state) :=
  (registry.function? name).map NativeFunction.handler

def contains (registry : NativeRegistry state) (name : String) : Bool :=
  (registry.function? name).isSome

def size (registry : NativeRegistry state) : Nat := registry.functions.length

def names (registry : NativeRegistry state) : List String := registry.functions.map (·.1)

/-- The objects that the functions keep. -/
def keeps (registry : NativeRegistry state) : List ObjectId :=
  registry.functions.flatMap fun entry => entry.2.keeps

def register (registry : NativeRegistry state) (name : String) (function : NativeFunction state) :
    NativeRegistry state :=
  ⟨(name, function) :: registry.functions.filter (·.1 != name)⟩

def registerAll (registry : NativeRegistry state)
    (functions : List (String × NativeFunction state)) : NativeRegistry state :=
  functions.foldl (fun known entry => known.register entry.1 entry.2) registry

/-- A registry of functions that keep nothing. -/
def ofHandlers (handlers : List (String × NativeHandler state)) : NativeRegistry state :=
  registerAll {} (handlers.map fun entry => (entry.1, ⟨entry.2, []⟩))

end NativeRegistry

/-- Declared names with the functions that they had when they were linked. -/
structure LinkedNatives (state : Type) where
  names : List String := []
  functions : List (NativeFunction state) := []

namespace LinkedNatives

variable {state : Type}

/-- The objects that the functions keep. -/
def keeps (linked : LinkedNatives state) : List ObjectId :=
  linked.functions.flatMap NativeFunction.keeps

/-- Fails for the first declared name that has no function. -/
def link (registry : NativeRegistry state) (declared : List String) :
    Except Fault (LinkedNatives state) := do
  let functions ← declared.mapM fun name =>
    match registry.function? name with
    | some function => .ok function
    | none => .error (unsatisfied name)
  return ⟨declared, functions⟩

/-- The first position of a name. -/
def indexOf? (linked : LinkedNatives state) (name : String) : Option UInt16 :=
  match linked.names.idxOf? name with
  | some index => if index < UInt16.size then some (UInt16.ofNat index) else none
  | none => none

def call (linked : LinkedNatives state) (position : UInt16) (arguments : List Value) :
    Action (Session state) Fault Value :=
  match linked.functions[position.toNat]? with
  | some function => function.handler arguments
  | none => throw (unsatisfied ("native #" ++ toString position.toNat))

end LinkedNatives

/-- Reading the arguments of a native call. Each reader says what is wrong with its own argument:
that it is missing, that it is null, or that it is of another kind. -/
structure Arguments where
  values : List Value
  heap : Heap

namespace Arguments

def value (arguments : Arguments) (index : Nat) : Except Fault Value :=
  match arguments.values[index]? with
  | some value => .ok value
  | none =>
    .error (.wrongValueKind ("argument " ++ toString index)
      (toString arguments.values.length ++ " arguments"))

def object? (arguments : Arguments) (index : Nat) : Except Fault (Option ObjectId) := do
  (← arguments.value index).toObject

/-- An object argument of the function of that name. -/
def object (arguments : Arguments) (index : Nat) (function : String) : Except Fault ObjectId := do
  match ← arguments.object? index with
  | some object => return object
  | none => throw (.nullReceiver function)

def int (arguments : Arguments) (index : Nat) : Except Fault Int32 := do
  let value ← arguments.value index
  match value.int? with
  | some number => return number
  | none => throw (.wrongValueKind "int" value.kindName)

def long (arguments : Arguments) (index : Nat) : Except Fault Int64 := do
  let value ← arguments.value index
  match value.long? with
  | some number => return number
  | none => throw (.wrongValueKind "long" value.kindName)

/-- A string argument of the function of that name. -/
def text (arguments : Arguments) (index : Nat) (function : String) : Except Fault String := do
  match ← arguments.value index with
  | .null => throw (.nullReceiver function)
  | value =>
    match arguments.heap.text? value with
    | some text => return text
    | none => throw (.wrongValueKind BaseClass.stringName value.kindName)

/-- An array rank, which is an int that is not negative. -/
def rank (arguments : Arguments) (index : Nat) : Except Fault Nat := do
  let number ← arguments.int index
  if 0 ≤ number then return number.toInt.toNat
  else throw (.wrongValueKind "array rank" (toString number.toInt))

end Arguments

end GuestBridge
