import GuestBridge.SystemError.Number

/-!
Failures of the operating system and of streams. One with a number comes from a system call; one
without was made here, with a condition and a text of its own.
-/
namespace GuestBridge

inductive SystemError where
  | numbered (number : Int32)
  | described (condition : ErrorCondition) (text : String)
  deriving DecidableEq

namespace SystemError

def condition : SystemError → ErrorCondition
  | numbered number => ErrorNumber.condition number
  | described condition _ => condition

def number? : SystemError → Option Int32
  | numbered number => some number
  | described _ _ => none

/-- What went wrong, in words. -/
def description : SystemError → String
  | numbered number => ErrorNumber.description number
  | described _ text => text

/-- The description, with the number where there is one. -/
def message (fault : SystemError) : String :=
  match fault.number? with
  | some number => fault.description ++ " (os error " ++ toString number.toInt ++ ")"
  | none => fault.description

/-- The numbers that the file, mapping and transfer calls raise. -/
def noSuchFile : SystemError := numbered 2

def interrupted : SystemError := numbered 4

def noSuchDevice : SystemError := numbered 6

def badDescriptor : SystemError := numbered 9

def outOfMemory : SystemError := numbered 12

def accessDenied : SystemError := numbered 13

def fileExists : SystemError := numbered 17

def cannotBeMapped : SystemError := numbered 19

def notADirectory : SystemError := numbered 20

def isADirectory : SystemError := numbered 21

def invalidArgument : SystemError := numbered 22

def fileTooLarge : SystemError := numbered 27

def brokenPipe : SystemError := numbered 32

def nameTooLong : SystemError := numbered 36

def filesystemLoop : SystemError := numbered 40

def valueTooLarge : SystemError := numbered 75

end SystemError

end GuestBridge
