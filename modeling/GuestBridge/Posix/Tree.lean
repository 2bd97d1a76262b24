import GuestBridge.Posix.StoredFile

/-!
Directories and the names in them. A name stands for a file, for a directory inside, or for the text
of a path that is followed in its place. A file can have several names. Who may open a directory,
who may look up names in it, and who may put new ones there, are three things.
-/
namespace GuestBridge.Posix

structure DirectoryId where
  index : Nat
  deriving DecidableEq

inductive Node where
  | file (file : FileId)
  | directory (directory : DirectoryId)
  | link (target : String)
  deriving DecidableEq

structure Directory where
  entries : List (String × Node) := []
  parent : DirectoryId
  readable : Bool := true
  searchable : Bool := true
  writable : Bool := true
  deriving DecidableEq

namespace Tree

/-- Where paths start that begin with a slash. It is the directory around itself. -/
def root : DirectoryId := ⟨0⟩

end Tree

/-- All directories, with the one where other paths start. -/
structure Tree where
  directories : Array Directory := #[{ parent := Tree.root }]
  working : DirectoryId := Tree.root

namespace Tree

/-- A directory that is not there can be used in no way. -/
def directory (tree : Tree) (id : DirectoryId) : Directory :=
  tree.directories[id.index]?.getD
    { parent := root, readable := false, searchable := false, writable := false }

def node? (tree : Tree) (id : DirectoryId) (name : String) : Option Node :=
  (tree.directory id).entries.lookup name

def add (tree : Tree) (id : DirectoryId) (name : String) (node : Node) : Tree :=
  { tree with
    directories := tree.directories.modify id.index fun known =>
      { known with entries := (name, node) :: known.entries } }

end Tree

end GuestBridge.Posix
