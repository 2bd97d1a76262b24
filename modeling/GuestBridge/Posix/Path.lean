import GuestBridge.Posix.Tree
import GuestBridge.SystemError

/-!
Walking a path through the directories. The steps between slashes are taken one by one; a single dot
stays where it is and two dots lead out. A step is only looked at when the steps before it have led
to a directory that may be searched. A link is followed from the directory that it is in, and there
are only so many links that one walk follows.
-/
namespace GuestBridge.Posix

/-- What a path leads to: a file, a name in a directory that stands for nothing yet, or a
directory. -/
inductive Destination where
  | file (file : FileId)
  | missing (directory : DirectoryId) (name : String)
  | directory (directory : DirectoryId)
  deriving DecidableEq

/-- What a path is walked for: for what is there, to create a file if none is there, or to create
one that must not be there. -/
inductive Purpose where
  | look
  | create
  | createNew
  deriving DecidableEq

namespace Path

def longestName : Nat := 255

def longestPath : Nat := 4095

def mostLinks : Nat := 40

def pieces : List Char → List (List Char)
  | [] => [[]]
  | '/' :: rest => [] :: pieces rest
  | letter :: rest =>
    match pieces rest with
    | [] => [[letter]]
    | first :: others => (letter :: first) :: others

/-- The steps of a path. Slashes in a row count as one. -/
def steps (path : String) : List String :=
  ((pieces path.toList).filter (· ≠ [])).map String.ofList

def start (path : String) (here : DirectoryId) : DirectoryId :=
  if path.toList.head? = some '/' then Tree.root else here

def asksDirectory (path : String) : Bool := path.toList.getLast? = some '/'

/-- The rest of a walk: whether it has to end at a directory, the directory it has come to, and the
steps that are left. -/
abbrev Walk : Type := (asDirectory : Bool) → DirectoryId → List String →
  Except SystemError Destination

/-- Takes the steps from a directory on, with `follow` for the rest behind a link. Only a directory
can have steps behind it, or a slash. A file with a slash behind it is not created, and a link is
not followed to create a new file. -/
def walk (tree : Tree) (purpose : Purpose) (follow : Walk) (asDirectory : Bool) :
    DirectoryId → List String → Except SystemError Destination
  | here, [] => .ok (.directory here)
  | here, name :: rest =>
    if !(tree.directory here).searchable then .error .accessDenied
    else if name = "." then walk tree purpose follow asDirectory here rest
    else if name = ".." then
      walk tree purpose follow asDirectory (tree.directory here).parent rest
    else if rest = [] ∧ asDirectory ∧ purpose ≠ .look then .error .isADirectory
    else if longestName < name.utf8ByteSize then .error .nameTooLong
    else
      match tree.node? here name with
      | some (.directory inner) => walk tree purpose follow asDirectory inner rest
      | some (.file file) =>
        if rest = [] ∧ !asDirectory then .ok (.file file) else .error .notADirectory
      | some (.link target) =>
        if rest = [] ∧ purpose = .createNew then .error .fileExists
        else if target = "" then .error .noSuchFile
        else
          follow (asDirectory || rest.isEmpty && asksDirectory target) (start target here)
            (steps target ++ rest)
      | none =>
        if rest = [] ∧ !asDirectory then .ok (.missing here name) else .error .noSuchFile

def walkLinks (tree : Tree) (purpose : Purpose) : Nat → Walk
  | 0 => walk tree purpose fun _ _ _ => .error .filesystemLoop
  | links + 1 => walk tree purpose (walkLinks tree purpose links)

end Path

def Tree.find (tree : Tree) (path : String) (purpose : Purpose) : Except SystemError Destination :=
  if path = "" then .error .noSuchFile
  else if Path.longestPath < path.utf8ByteSize then .error .nameTooLong
  else
    Path.walkLinks tree purpose Path.mostLinks (Path.asksDirectory path)
      (Path.start path tree.working) (Path.steps path)

end GuestBridge.Posix
