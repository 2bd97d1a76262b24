import GuestBridge.Posix.SharedObject.Dynamic

/-!
Symbols of a shared object: names for places in it, or in other objects where it has no home of
its own for them.
-/
namespace GuestBridge.Posix.SharedObject

inductive Binding where
  | own
  | strong
  | weak
  | unique
  | unknown
  deriving DecidableEq

def Binding.ofCode : Nat → Binding
  | 0 => own
  | 1 => strong
  | 2 => weak
  | 10 => unique
  | _ => unknown

structure Symbol where
  name : Nat
  kind : Nat
  binding : Binding
  visibility : Nat
  home : Nat
  value : Nat
  deriving DecidableEq

namespace Symbol

def rowSize : Nat := 24

def ofBytes (bytes : Bytes) : Symbol where
  name := number bytes 0 4
  kind := byte bytes 4 % 16
  binding := .ofCode (byte bytes 4 / 16)
  visibility := byte bytes 5 % 4
  home := number bytes 6 2
  value := number bytes 8 8

/-- No section has it: another object has to define it. -/
def isUndefined (symbol : Symbol) : Bool := symbol.home == 0

/-- Its value is no address in the object. -/
def isAbsolute (symbol : Symbol) : Bool := symbol.home == 0xfff1

/-- It stands for a place in the memory that each thread has to itself. -/
def isOfThread (symbol : Symbol) : Bool := symbol.kind == 6

/-- It stands for what code answers. -/
def isAnswered (symbol : Symbol) : Bool := symbol.kind == 10

/-- Kinds of symbols that stand for code or data. -/
def kinds : List Nat := [0, 1, 2, 5, 6, 10]

def isHidden (symbol : Symbol) : Bool := symbol.visibility == 1 || symbol.visibility == 2

/-- Whether the symbol can be what a name stands for. A place to call has to be in a section. -/
def isCandidate (symbol : Symbol) (forCalls : Bool) : Bool :=
  (symbol.value != 0 || symbol.isAbsolute || symbol.isOfThread) &&
    !(forCalls && symbol.isUndefined) && kinds.contains symbol.kind

end Symbol

end GuestBridge.Posix.SharedObject
