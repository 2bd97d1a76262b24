import GuestBridge.HostClass

/-!
Access plans: the short sequences of steps that a guest field access compiles to. Where barriers
stand, when a 64-bit value takes the indivisible path and when a value-type receiver is unboxed
follow the guest's memory model; on one thread a barrier does nothing.
-/
namespace GuestBridge

/-- A field of a class, as its accesses need it. -/
structure BoundField where
  declaring : HostClass
  field : HostField

namespace BoundField

/-- The first field of that name and signature. -/
def resolve (declaring : HostClass) (name signature : String) : Except Fault BoundField :=
  match declaring.layout.findField? name signature with
  | some field => .ok ⟨declaring, field⟩
  | none => .error (.memberNotFound declaring.name name (":" ++ signature))

def name (field : BoundField) : String := field.field.name

def kind (field : BoundField) : FieldKind := field.field.kind

def isStatic (field : BoundField) : Bool := field.field.modifiers.isStatic

def isFinal (field : BoundField) : Bool := field.field.modifiers.isFinal

def isVolatile (field : BoundField) : Bool := field.field.modifiers.isVolatile

end BoundField

namespace Access

inductive Ordering where
  | plain
  | volatile
  deriving DecidableEq

inductive Step where
  | loadStatic
  | loadReceiver
  | unbox
  | memoryBarrier
  | loadAddress
  | load (ordering : Ordering)
  | store (ordering : Ordering)
  | loadIndirect (ordering : Ordering)
  | storeIndirect (ordering : Ordering)
  | volatileRead (width : PrimitiveKind)
  | volatileWrite (width : PrimitiveKind)
  | compareExchange (kind : FieldKind)
  deriving DecidableEq

/-- How guest code asks for the access: as the field's modifiers say, around them, or around them
with volatile ordering. -/
inductive Strategy where
  | plain
  | unsafeAccess
  | volatileAccess
  deriving DecidableEq

structure Plan where
  target : BoundField
  steps : List Step

/-- The step that finds the cell. -/
def locate (field : BoundField) : Step :=
  if field.isStatic then .loadStatic
  else if field.declaring.layout.isValueType then .unbox
  else .loadReceiver

/-- The kind of a wide volatile field, whose accesses must not tear. -/
def wideVolatile? (field : BoundField) : Option PrimitiveKind :=
  match field.kind with
  | .primitive kind => if kind.isWide && field.isVolatile then some kind else none
  | .reference => none

def readSteps (field : BoundField) (strategy : Strategy) : List Step :=
  match strategy, wideVolatile? field with
  | .volatileAccess, _ =>
    match field.kind with
    | .primitive kind => [.loadAddress, .volatileRead kind]
    | .reference => [.loadAddress, .memoryBarrier, .loadIndirect .volatile]
  | _, some kind => [.loadAddress, .volatileRead kind]
  | .unsafeAccess, none =>
    if field.isStatic && field.isFinal then
      -- by way of the address, so that the constant is not folded
      if field.isVolatile then [.memoryBarrier, .loadAddress, .loadIndirect .volatile]
      else [.loadAddress, .loadIndirect .plain]
    else if field.isVolatile then [.memoryBarrier, .load .volatile]
    else [.load .plain]
  | .plain, none =>
    if field.isVolatile then [.memoryBarrier, .load .volatile] else [.load .plain]

def writeSteps (field : BoundField) (strategy : Strategy) : List Step :=
  match strategy, wideVolatile? field with
  | .volatileAccess, _ =>
    match field.kind with
    | .primitive kind => [.loadAddress, .volatileWrite kind]
    | .reference => [.loadAddress, .storeIndirect .volatile, .memoryBarrier]
  | _, some kind => [.loadAddress, .volatileWrite kind]
  | _, none =>
    if field.isVolatile then [.store .volatile, .memoryBarrier] else [.store .plain]

end Access

namespace BoundField

open Access

def getPlan (field : BoundField) (strategy : Strategy) : Plan :=
  ⟨field, locate field :: readSteps field strategy⟩

def setPlan (field : BoundField) (strategy : Strategy) : Plan :=
  ⟨field, locate field :: writeSteps field strategy⟩

/-- Only fields of an exchangeable kind have one. -/
def exchangePlan (field : BoundField) : Except Fault Plan :=
  if field.kind.isExchangeable then
    .ok ⟨field, [locate field, .loadAddress, .compareExchange field.kind]⟩
  else .error (.unsupportedExchange field.kind.keyword)

end BoundField

end GuestBridge
