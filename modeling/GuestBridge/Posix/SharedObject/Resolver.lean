import GuestBridge.Posix.SharedObject.Number

/-!
Code that answers an address. A symbol can stand for whatever a piece of code in its object answers
when it is looked up. Code that does no more than answer a fixed number is followed here,
instruction by instruction.
-/
namespace GuestBridge.Posix.SharedObject

/-- An instruction: its code, how many bytes of a number follow, and what it leaves as the answer,
if it has to do with it. -/
structure Instruction where
  code : Bytes
  operandSize : Nat := 0
  answer? : Option (Nat → Nat) := none

def signExtended (value : Nat) : Nat :=
  if value < Nat.pow 2 31 then value else value + (addressRange - Nat.pow 2 32)

/-- The instructions that are followed. Those that set up and take down a frame leave the answer
alone. -/
def instructions : List Instruction := [
  { code := [0xf3, 0x0f, 0x1e, 0xfa] },
  { code := [0x90] },
  { code := [0x55] },
  { code := [0x48, 0x89, 0xe5] },
  { code := [0x5d] },
  { code := [0xc9] },
  { code := [0x31, 0xc0], answer? := some fun _ => 0 },
  { code := [0x33, 0xc0], answer? := some fun _ => 0 },
  { code := [0x29, 0xc0], answer? := some fun _ => 0 },
  { code := [0x48, 0x31, 0xc0], answer? := some fun _ => 0 },
  { code := [0x48, 0x33, 0xc0], answer? := some fun _ => 0 },
  { code := [0xb8], operandSize := 4, answer? := some id },
  { code := [0x48, 0xb8], operandSize := 8, answer? := some id },
  { code := [0x48, 0xc7, 0xc0], operandSize := 4, answer? := some signExtended }]

def returning : Bytes := [0xc3]

def longestCode : Nat := 64

/-- What the code answers, given the answer so far. -/
def followed : Nat → (code : Bytes) → (answer? : Option Nat) → Option Nat
  | 0, _, _ => none
  | fuel + 1, code, answer? =>
    if returning.isPrefixOf code then answer?
    else
      match instructions.find? (·.code.isPrefixOf code) with
      | none => none
      | some instruction =>
        let rest := code.drop instruction.code.length
        let operand := number rest 0 instruction.operandSize
        followed fuel (rest.drop instruction.operandSize)
          ((instruction.answer?.map (· operand)).or answer?)

def fixedAnswer? (code : Bytes) : Option Nat := followed (code.length + 1) code none

end GuestBridge.Posix.SharedObject
