/-!
Type signatures of guest members. A primitive is one letter, a named class stands between `L` and
`;`, and leading brackets make arrays. A field signature decides the storage kind of the field; a
method signature decides how many arguments a call takes. Return types and class names are not
looked at here.
-/
namespace GuestBridge

inductive PrimitiveKind where
  | boolean
  | byte
  | char
  | short
  | int
  | long
  | float
  | double
  deriving DecidableEq

namespace PrimitiveKind

def all : List PrimitiveKind := [boolean, byte, char, short, int, long, float, double]

def letter : PrimitiveKind → Char
  | boolean => 'Z'
  | byte => 'B'
  | char => 'C'
  | short => 'S'
  | int => 'I'
  | long => 'J'
  | float => 'F'
  | double => 'D'

def ofLetter? (letter : Char) : Option PrimitiveKind :=
  all.find? (·.letter == letter)

/-- The guest language's word for the kind. -/
def keyword : PrimitiveKind → String
  | boolean => "boolean"
  | byte => "byte"
  | char => "char"
  | short => "short"
  | int => "int"
  | long => "long"
  | float => "float"
  | double => "double"

/-- Wide kinds take 64 bits, so an unordered access may tear them. -/
def isWide : PrimitiveKind → Bool
  | long | double => true
  | _ => false

end PrimitiveKind

/-- What a field stores: a primitive of one kind, or a reference that may be null. -/
inductive FieldKind where
  | primitive (kind : PrimitiveKind)
  | reference
  deriving DecidableEq

namespace FieldKind

/-- A class signature needs its `;` and at least one character of a name, an array signature at
least one character after the bracket; neither is looked into further. -/
def ofSignature? (signature : String) : Option FieldKind :=
  match signature.toList with
  | 'L' :: name => if name.getLast? = some ';' ∧ 1 < name.length then some .reference else none
  | '[' :: element => if element = [] then none else some .reference
  | [letter] => (PrimitiveKind.ofLetter? letter).map .primitive
  | _ => none

def keyword : FieldKind → String
  | primitive kind => kind.keyword
  | reference => "reference"

def isWide : FieldKind → Bool
  | primitive kind => kind.isWide
  | reference => false

def primitive? : FieldKind → Option PrimitiveKind
  | primitive kind => some kind
  | reference => none

/-- The kinds that a compare-and-swap can work on. -/
def isExchangeable : FieldKind → Bool
  | primitive .int | primitive .long | primitive .double | reference => true
  | _ => false

end FieldKind

/-- Counts the parameters in the text between the parentheses. With `inName` the scan is inside a
class name, which ends at the next `;`; a bracket counts nothing by itself. -/
def countParameters (inName : Bool) : List Char → Option Nat
  | [] => if inName then none else some 0
  | letter :: rest =>
    if inName then
      if letter = ';' then (countParameters false rest).map (· + 1) else countParameters true rest
    else if letter = '[' then countParameters false rest
    else if letter = 'L' then countParameters true rest
    else if (PrimitiveKind.ofLetter? letter).isSome then (countParameters false rest).map (· + 1)
    else none

/-- The number of arguments that a method of this signature takes. What follows the first `)` is
the return part and is not looked at. -/
def parameterCount? (signature : String) : Option Nat :=
  match signature.toList with
  | '(' :: rest =>
    if ')' ∈ rest then countParameters false (rest.takeWhile (· ≠ ')')) else none
  | _ => none

end GuestBridge
