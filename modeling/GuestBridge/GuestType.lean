/-!
Guest types: named classes, interfaces and ghost interfaces, and arrays of them. An array is its
innermost named type with a number of dimensions around it, so an element type is never itself an
array. Two types are the same when their ranks and innermost names agree; parents are declared, not
compared. Assignability follows the declared parents, and arrays are covariant.
-/
namespace GuestBridge

/-- What a named type was declared as. A ghost is an interface without a host representation. -/
inductive DeclaredShape where
  | concrete
  | interface
  | ghost
  deriving DecidableEq

/-- A guest type: the declaration of its innermost named type, and its array dimensions. -/
inductive GuestType where
  | mk (shape : DeclaredShape) (baseName : String) (declaredSuper : Option GuestType)
      (declaredInterfaces : List GuestType) (rank : Nat)

namespace GuestType

def shape : GuestType → DeclaredShape
  | mk shape .. => shape

/-- Name of the innermost named type. -/
def baseName : GuestType → String
  | mk _ name .. => name

/-- Number of array dimensions, zero for a named type. -/
def rank : GuestType → Nat
  | mk _ _ _ _ rank => rank

def isArray (type : GuestType) : Bool := type.rank ≠ 0

def isGhost (type : GuestType) : Bool := !type.isArray && type.shape == .ghost

def ofClass (name : String) (superClass : Option GuestType) (interfaces : List GuestType) :
    GuestType :=
  mk .concrete name superClass interfaces 0

def ofInterface (name : String) (interfaces : List GuestType) : GuestType :=
  mk .interface name none interfaces 0

def ofGhost (name : String) (interfaces : List GuestType) : GuestType :=
  mk .ghost name none interfaces 0

/-- The array type with that many more dimensions; with none it is the type itself. -/
def arrayOf (dimensions : Nat) : GuestType → GuestType
  | mk shape name superClass interfaces rank =>
    mk shape name superClass interfaces (rank + dimensions)

/-- The innermost named type. -/
def base : GuestType → GuestType
  | mk shape name superClass interfaces _ => mk shape name superClass interfaces 0

/-- The innermost named type of an array. -/
def elementType? (type : GuestType) : Option GuestType :=
  if type.isArray then some type.base else none

/-- An array declares no super class. -/
def superClass? : GuestType → Option GuestType
  | mk _ _ superClass _ rank => if rank = 0 then superClass else none

/-- An array declares no interfaces. -/
def interfaces : GuestType → List GuestType
  | mk _ _ _ interfaces rank => if rank = 0 then interfaces else []

/-- One bracket for each dimension, then the innermost name between `L` and `;`. -/
def descriptor (type : GuestType) : String :=
  String.ofList (List.replicate type.rank '[') ++ "L" ++ type.baseName ++ ";"

/-- A named type has its own name, an array its descriptor. -/
def name (type : GuestType) : String :=
  if type.isArray then type.descriptor else type.baseName

/-- Two types are the same when rank and innermost name agree. -/
def same (left right : GuestType) : Bool :=
  left.rank == right.rank && left.baseName == right.baseName

def objectName : String := "java.lang.Object"

def cloneableName : String := "java.lang.Cloneable"

def serializableName : String := "java.io.Serializable"

def isNamed (type : GuestType) (name : String) : Bool := !type.isArray && type.baseName == name

mutual

/-- Whether the target is among the declared ancestors of a named type. -/
def inherits (target : GuestType) : GuestType → Bool
  | mk _ _ superClass interfaces rank =>
    rank == 0 && (optionReaches target superClass || anyReaches target interfaces)

def optionReaches (target : GuestType) : Option GuestType → Bool
  | none => false
  | some parent => parent.same target || inherits target parent

def anyReaches (target : GuestType) : List GuestType → Bool
  | [] => false
  | parent :: rest => parent.same target || inherits target parent || anyReaches target rest

end

/-- Assignability between named types: the same, up to the root class, or along the parents. -/
def namedAssignable (source target : GuestType) : Bool :=
  source.same target || target.isNamed objectName || inherits target source

/-- Whether a value of the source type can stand where the target type is expected. An array whose
rank exceeds the target's is still an array below the target's dimensions, so only the types above
every array remain for it. -/
def assignable (source target : GuestType) : Bool :=
  if source.same target || target.isNamed objectName then true
  else if source.isArray then
    if target.isArray then
      if source.rank = target.rank then namedAssignable source.base target.base
      else if target.rank < source.rank then
        target.baseName == objectName || target.baseName == cloneableName ||
          target.baseName == serializableName
      else false
    else target.isNamed cloneableName || target.isNamed serializableName
  else if target.isArray then false
  else inherits target source

@[simp] theorem rank_arrayOf (dimensions : Nat) (type : GuestType) :
    (type.arrayOf dimensions).rank = type.rank + dimensions := by cases type; rfl

@[simp] theorem baseName_arrayOf (dimensions : Nat) (type : GuestType) :
    (type.arrayOf dimensions).baseName = type.baseName := by cases type; rfl

@[simp] theorem base_arrayOf (dimensions : Nat) (type : GuestType) :
    (type.arrayOf dimensions).base = type.base := by cases type; rfl

@[simp] theorem arrayOf_zero (type : GuestType) : type.arrayOf 0 = type := by cases type; rfl

theorem arrayOf_arrayOf (inner outer : Nat) (type : GuestType) :
    (type.arrayOf inner).arrayOf outer = type.arrayOf (inner + outer) := by
  cases type; simp [arrayOf, Nat.add_assoc]

@[simp] theorem rank_base (type : GuestType) : type.base.rank = 0 := by cases type; rfl

@[simp] theorem baseName_base (type : GuestType) : type.base.baseName = type.baseName := by
  cases type; rfl

/-- A type is its innermost named type with its dimensions around it. -/
theorem base_arrayOf_rank (type : GuestType) : type.base.arrayOf type.rank = type := by
  cases type; simp [base, arrayOf, rank]

theorem base_eq_of_rank_zero {type : GuestType} (named : type.rank = 0) : type.base = type := by
  have whole := type.base_arrayOf_rank
  rwa [named, arrayOf_zero] at whole

theorem same_iff {left right : GuestType} :
    left.same right = true ↔ left.rank = right.rank ∧ left.baseName = right.baseName := by
  simp [same]

theorem isNamed_iff {type : GuestType} {name : String} :
    type.isNamed name = true ↔ type.rank = 0 ∧ type.baseName = name := by
  simp [isNamed, isArray]

end GuestType

end GuestBridge
