import GuestBridge.Access.Execution

/-!
Accessors: handles on a field, a method or a constructor of a host class, resolved by name. A call
through a method or constructor accessor checks the number of arguments first, then the receiver.
-/
namespace GuestBridge

inductive MemberKind where
  | field
  | method
  | constructor
  deriving DecidableEq

def MemberKind.word : MemberKind → String
  | field => "Field"
  | method => "Method"
  | constructor => "Constructor"

/-- The member that an accessor is for. -/
structure MemberSpec where
  kind : MemberKind
  owner : String
  name : String
  signature : String
  deriving DecidableEq

namespace MemberSpec

def ofField (owner name signature : String) : MemberSpec := ⟨.field, owner, name, signature⟩

def ofMethod (owner name signature : String) : MemberSpec := ⟨.method, owner, name, signature⟩

def ofConstructor (owner signature : String) : MemberSpec :=
  ⟨.constructor, owner, "<init>", signature⟩

/-- A constructor has the same name in every class, so no other is asked for. -/
def ofKind (kind : MemberKind) (owner name signature : String) : MemberSpec :=
  match kind with
  | .field => ofField owner name signature
  | .method => ofMethod owner name signature
  | .constructor => ofConstructor owner signature

def notFound (spec : MemberSpec) : Fault :=
  .memberNotFound spec.owner spec.name
    (if spec.kind = .field then ":" ++ spec.signature else spec.signature)

end MemberSpec

/-- A method ready to be called, with the number of arguments its signature takes. -/
structure BoundMethod where
  declaring : HostClass
  method : HostMethod
  arity : Nat

structure BoundConstructor where
  declaring : HostClass
  constructor : HostConstructor
  arity : Nat

def checkArity (arity : Nat) (arguments : List Value) : Except Fault Unit :=
  if arguments.length = arity then .ok ()
  else .error (.wrongValueKind (toString arity ++ " arguments") (toString arguments.length))

/-- A static method's body gets no receiver even when one is supplied. -/
def BoundMethod.invoke (bound : BoundMethod) (receiver : Option ObjectId)
    (arguments : List Value) : Action Heap Fault Value := do
  checkArity bound.arity arguments
  if bound.method.isStatic then bound.method.body none arguments
  else
    match receiver with
    | some object => bound.method.body (some object) arguments
    | none => throw (.nullReceiver (bound.declaring.name ++ "." ++ bound.method.name))

def BoundConstructor.invoke (bound : BoundConstructor) (arguments : List Value) :
    Action Heap Fault ObjectId := do
  checkArity bound.arity arguments
  bound.constructor.body bound.declaring.layout arguments

inductive Accessor where
  | field (bound : BoundField)
  | method (bound : BoundMethod)
  | constructor (bound : BoundConstructor)

namespace Accessor

def kind : Accessor → MemberKind
  | field _ => .field
  | method _ => .method
  | constructor _ => .constructor

/-- The class that the member is of. -/
def declaring : Accessor → HostClass
  | field bound => bound.declaring
  | method bound => bound.declaring
  | constructor bound => bound.declaring

/-- Finds the member in its class. A method whose parameters cannot be counted is not found. -/
def ofClass (owner : HostClass) (spec : MemberSpec) : Except Fault Accessor :=
  match spec.kind with
  | .field => (BoundField.resolve owner spec.name spec.signature).map .field
  | .method =>
    match owner.findMethod? spec.name spec.signature, parameterCount? spec.signature with
    | some found, some arity => .ok (.method ⟨owner, found, arity⟩)
    | _, _ => .error spec.notFound
  | .constructor =>
    match owner.findConstructor? spec.signature, parameterCount? spec.signature with
    | some found, some arity => .ok (.constructor ⟨owner, found, arity⟩)
    | _, _ => .error spec.notFound

end Accessor

end GuestBridge
