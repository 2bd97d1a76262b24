import GuestBridge.Accessor

/-!
Tables of accessors that are resolved on first use. A slot is written once: the first successful
resolution stays, whatever is registered later, and a failed one leaves the slot as it was and is
tried again by the next call. Classes are looked up through a given operation, asked once by each
call on an unresolved slot and not at all otherwise.
-/
namespace GuestBridge

/-- A value that is made at most once. -/
abbrev Once (content : Type) : Type := Option content

/-- The value in the slot, made and kept by the given operation if there is none yet. -/
def Once.getOrMake {state failure content : Type} (slot : Once content)
    (make : Action state failure content) : Action state failure (content × Once content) := do
  match slot with
  | some content => return (content, some content)
  | none =>
    let content ← make
    return (content, some content)

structure AccessorSlot where
  spec : MemberSpec
  resolved : Once Accessor := none

structure AccessorTable where
  slots : List AccessorSlot := []

namespace AccessorTable

variable {state : Type}

/-- A table of these members, none of them resolved. -/
def declare (members : List MemberSpec) : AccessorTable := ⟨members.map ({ spec := · })⟩

def size (table : AccessorTable) : Nat := table.slots.length

def resolvedSize (table : AccessorTable) : Nat :=
  (table.slots.filter (·.resolved.isSome)).length

def isResolved (table : AccessorTable) (slot : Nat) : Bool :=
  match table.slots[slot]? with
  | some entry => entry.resolved.isSome
  | none => false

/-- The classes of the members that are resolved. -/
def layouts (table : AccessorTable) : List ClassLayout :=
  table.slots.filterMap fun entry => entry.resolved.map (·.declaring.layout)

def spec? (table : AccessorTable) (slot : Nat) : Option MemberSpec :=
  table.slots[slot]?.map AccessorSlot.spec

def slotNotFound (slot : Nat) : Fault :=
  .memberNotFound "<accessor table>" ("slot " ++ toString slot) ""

/-- Looks up the owner and finds the member in it. -/
def resolveMember (find : String → Action state Fault HostClass) (spec : MemberSpec) :
    Action state Fault Accessor := do
  let owner ← find spec.owner
  Accessor.ofClass owner spec

def keep (table : AccessorTable) (slot : Nat) (resolved : Once Accessor) : AccessorTable :=
  ⟨table.slots.modify slot fun entry => { entry with resolved }⟩

/-- The accessor in a slot, resolved now if it was not before. -/
def accessor (find : String → Action state Fault HostClass) (slot : Nat) :
    Action (AccessorTable × state) Fault Accessor := do
  let (table, _) ← get
  match table.slots[slot]? with
  | none => throw (slotNotFound slot)
  | some entry =>
    let (accessor, kept) ←
      (entry.resolved.getOrMake (resolveMember find entry.spec)).within .second
    modify fun whole => (whole.1.keep slot kept, whole.2)
    return accessor

/-- The failure of asking a slot for another kind of member than it holds. -/
def wrongMember (table : AccessorTable) (slot : Nat) (found : Accessor) (wanted : MemberKind) :
    Fault :=
  match table.spec? slot with
  | some spec =>
    .wrongValueKind (wanted.word ++ " accessor")
      (found.kind.word ++ " accessor for " ++ spec.owner ++ "." ++ spec.name)
  | none => slotNotFound slot

def field (find : String → Action state Fault HostClass) (slot : Nat) :
    Action (AccessorTable × state) Fault BoundField := do
  match ← accessor find slot with
  | .field bound => return bound
  | other => throw ((← get).1.wrongMember slot other .field)

def method (find : String → Action state Fault HostClass) (slot : Nat) :
    Action (AccessorTable × state) Fault BoundMethod := do
  match ← accessor find slot with
  | .method bound => return bound
  | other => throw ((← get).1.wrongMember slot other .method)

def constructor (find : String → Action state Fault HostClass) (slot : Nat) :
    Action (AccessorTable × state) Fault BoundConstructor := do
  match ← accessor find slot with
  | .constructor bound => return bound
  | other => throw ((← get).1.wrongMember slot other .constructor)

end AccessorTable

end GuestBridge
