import GuestBridge.SystemError

/-!
Failures of the bridge, by cause. Each has a message, a kind that says whose problem it is, and
the exception class that the guest sees.
-/
namespace GuestBridge

/-- Why a native library or one of its symbols cannot be had. -/
inductive LoadFault where
  | notFound (path : String)
  | symbolNotFound (symbol library : String)
  | platform (text : String)
  | invalidPath (path : String)
  deriving DecidableEq

def LoadFault.message : LoadFault → String
  | notFound path => "Library not found: " ++ path
  | symbolNotFound symbol library => "Symbol not found: " ++ symbol ++ " in " ++ library
  | platform text => "Platform error: " ++ text
  | invalidPath path => "Invalid UTF-8 in path: " ++ path

inductive FaultKind where
  | configuration
  | resourceState
  | resourceExhaustion
  | platformUnsupported
  | classCast
  deriving DecidableEq

/-- A failure of a bridge operation. An input/output failure may carry the system failure that
caused it. -/
inductive Fault where
  | typeNotFound (name : String)
  | memberNotFound (owner member signature : String)
  | unsupportedExchange (kind : String)
  | invalidMapMode (code : Int32)
  | wrongValueKind (expected got : String)
  | nullReceiver (what : String)
  | io (text : String) (cause : Option SystemError)
  | outOfMemory (text : String)
  | platformUnsupported
  | classCast (text : String)
  | library (cause : LoadFault)
  deriving DecidableEq

namespace Fault

/-- A cast of an object of one class to another class or type. -/
def cannotCast (source target : String) : Fault :=
  classCast (source ++ " cannot be cast to " ++ target)

def streamClosed : Fault := io "Stream closed." none

def message : Fault → String
  | typeNotFound name => "Type not found: " ++ name
  | memberNotFound owner member signature =>
    "Member not found: " ++ owner ++ "." ++ member ++ signature
  | unsupportedExchange kind => "Compare-and-swap is not supported on " ++ kind ++ " fields"
  | invalidMapMode code => "Invalid map mode: " ++ toString code.toInt
  | wrongValueKind expected got => "Type mismatch: expected " ++ expected ++ ", got " ++ got
  | nullReceiver what => "Null receiver for " ++ what
  | io text _ => text
  | outOfMemory text => text
  | platformUnsupported => "Unsupported operation on platform."
  | classCast text => text
  | library cause => cause.message

def kind : Fault → FaultKind
  | typeNotFound _ | memberNotFound .. | unsupportedExchange _ | invalidMapMode _
  | wrongValueKind .. | nullReceiver _ => .configuration
  | io .. | library _ => .resourceState
  | outOfMemory _ => .resourceExhaustion
  | platformUnsupported => .platformUnsupported
  | classCast _ => .classCast

/-- The class of the exception that the guest sees. -/
def guestClass : Fault → String
  | typeNotFound _ | memberNotFound .. | unsupportedExchange _ | invalidMapMode _
  | wrongValueKind .. => "java.lang.InternalError"
  | nullReceiver _ => "java.lang.NullPointerException"
  | io .. | platformUnsupported => "java.io.IOException"
  | outOfMemory _ => "java.lang.OutOfMemoryError"
  | classCast _ => "java.lang.ClassCastException"
  | library _ => "java.lang.UnsatisfiedLinkError"

/-- The system's error number, where the failure of a system call is the cause. -/
def systemNumber? : Fault → Option Int32
  | io _ cause => cause.bind SystemError.number?
  | _ => none

end Fault

end GuestBridge
