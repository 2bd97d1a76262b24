import GuestBridge.Backend

/-!
The backend for systems that have none of the facilities. Every request fails, apart from advice,
which may always be ignored.
-/
namespace GuestBridge.Backend

def unsupportedText : String := "Unsupported operation on platform."

def unsupportedFault : SystemError := .described .unsupported unsupportedText

def unsupported {state : Type} : Backend state where
  name := "unsupported"
  granularity := throw .platformUnsupported
  readAhead _ _ _ := return ()
  mapMemory _ _ _ _ := throw unsupportedFault
  unmapMemory _ _ := throw unsupportedFault
  transfer _ _ _ _ := throw .platformUnsupported
  loadLibrary path := throw (.platform ("cannot load " ++ path ++ ": " ++ unsupportedText))
  freeLibrary _ machine := machine
  resolveSymbol _ _ := return none

end GuestBridge.Backend
