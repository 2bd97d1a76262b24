/-!
Long lists of names in little room: names in lines of text, and names that begin alike, which are
kept as what they begin with and how each of them goes on.
-/
namespace GuestBridge.Posix.SystemLibrary

def words (lines : List String) : List String := lines.flatMap (·.splitOn " ")

def families (all : List (String × List String)) : List String :=
  all.flatMap fun (beginning, lines) => (words lines).map (beginning ++ ·)

/-- Names that came with a version of a library. The older ones are there only for who asks for this
version: the names mean something else by now, or nothing at all. -/
structure VersionedNames where
  version : String
  names : List String := []
  olderNames : List String := []
  deriving DecidableEq

end GuestBridge.Posix.SystemLibrary
