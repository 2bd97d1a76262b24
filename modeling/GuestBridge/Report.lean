import GuestBridge.Fault
import GuestBridge.GuestType
import GuestBridge.IoStatus

/-!
The names under which reports list conditions, faults and statuses. Names of conditions and of
statuses can be read back.
-/
namespace GuestBridge

namespace ErrorCondition

def all : List ErrorCondition := [
  notFound, permissionDenied, connectionRefused, connectionReset, hostUnreachable,
  networkUnreachable, connectionAborted, notConnected, addressInUse, addressNotAvailable,
  networkDown, brokenPipe, alreadyExists, wouldBlock, notADirectory, isADirectory,
  directoryNotEmpty, readOnlyFilesystem, filesystemLoop, staleNetworkFileHandle, invalidInput,
  invalidData, timedOut, writeZero, storageFull, notSeekable, quotaExceeded, fileTooLarge,
  resourceBusy, executableFileBusy, tooManyOpenFiles, deadlock, crossesDevices, tooManyLinks,
  invalidFilename, argumentListTooLong, interrupted, unsupported, unexpectedEndOfFile, outOfMemory,
  inProgress, other, uncategorized]

def name : ErrorCondition → String
  | notFound => "NotFound"
  | permissionDenied => "PermissionDenied"
  | connectionRefused => "ConnectionRefused"
  | connectionReset => "ConnectionReset"
  | hostUnreachable => "HostUnreachable"
  | networkUnreachable => "NetworkUnreachable"
  | connectionAborted => "ConnectionAborted"
  | notConnected => "NotConnected"
  | addressInUse => "AddrInUse"
  | addressNotAvailable => "AddrNotAvailable"
  | networkDown => "NetworkDown"
  | brokenPipe => "BrokenPipe"
  | alreadyExists => "AlreadyExists"
  | wouldBlock => "WouldBlock"
  | notADirectory => "NotADirectory"
  | isADirectory => "IsADirectory"
  | directoryNotEmpty => "DirectoryNotEmpty"
  | readOnlyFilesystem => "ReadOnlyFilesystem"
  | filesystemLoop => "FilesystemLoop"
  | staleNetworkFileHandle => "StaleNetworkFileHandle"
  | invalidInput => "InvalidInput"
  | invalidData => "InvalidData"
  | timedOut => "TimedOut"
  | writeZero => "WriteZero"
  | storageFull => "StorageFull"
  | notSeekable => "NotSeekable"
  | quotaExceeded => "QuotaExceeded"
  | fileTooLarge => "FileTooLarge"
  | resourceBusy => "ResourceBusy"
  | executableFileBusy => "ExecutableFileBusy"
  | tooManyOpenFiles => "TooManyOpenFiles"
  | deadlock => "Deadlock"
  | crossesDevices => "CrossesDevices"
  | tooManyLinks => "TooManyLinks"
  | invalidFilename => "InvalidFilename"
  | argumentListTooLong => "ArgumentListTooLong"
  | interrupted => "Interrupted"
  | unsupported => "Unsupported"
  | unexpectedEndOfFile => "UnexpectedEof"
  | outOfMemory => "OutOfMemory"
  | inProgress => "InProgress"
  | other => "Other"
  | uncategorized => "Uncategorized"

def ofName? (name : String) : Option ErrorCondition := all.find? (·.name == name)

end ErrorCondition

def LoadFault.name : LoadFault → String
  | notFound _ => "NotFound"
  | symbolNotFound .. => "SymbolNotFound"
  | platform _ => "PlatformError"
  | invalidPath _ => "InvalidPath"

def FaultKind.name : FaultKind → String
  | configuration => "Configuration"
  | resourceState => "ResourceState"
  | resourceExhaustion => "ResourceExhaustion"
  | platformUnsupported => "PlatformUnsupported"
  | classCast => "ClassCast"

def Fault.name : Fault → String
  | typeNotFound _ => "TypeNotFound"
  | memberNotFound .. => "MemberNotFound"
  | unsupportedExchange _ => "UnsupportedCompareAndSwap"
  | invalidMapMode _ => "InvalidMapMode"
  | wrongValueKind .. => "WrongValueKind"
  | nullReceiver _ => "NullReceiver"
  | io .. => "Io"
  | outOfMemory _ => "OutOfMemory"
  | platformUnsupported => "PlatformUnsupported"
  | classCast _ => "ClassCast"
  | library _ => "Library"

namespace IoStatus

def name : IoStatus → String
  | ok _ => "Ok"
  | endOfFile => "Eof"
  | unsupported => "Unsupported"
  | unsupportedCase => "UnsupportedCase"
  | unavailable => "Unavailable"
  | interrupted => "Interrupted"

/-- The status of a name; the count is for the one that has a count. -/
def ofName? (name : String) (count : UInt64) : Option IoStatus :=
  [ok count, endOfFile, unsupported, unsupportedCase, unavailable, interrupted].find?
    (·.name == name)

end IoStatus

/-- What sort of type it is. -/
def GuestType.shapeName (type : GuestType) : String :=
  if type.isArray then "Array"
  else
    match type.shape with
    | .concrete => "Class"
    | .interface => "Interface"
    | .ghost => "Ghost"

end GuestBridge
