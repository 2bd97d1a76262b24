import GuestBridge.Posix.PageBlock

/-!
A file as the system keeps it: its content, what shared views have written behind the end, the
blocks that its pages came into memory in, and what it may be opened for. What lies behind the end
is on the last page of the file, can be seen through views only, and is lost when the file is given
a size.
-/
namespace GuestBridge.Posix

structure FileId where
  index : Nat
  deriving DecidableEq

structure StoredFile where
  content : Content := {}
  slack : Content := {}
  blocks : List PageBlock := []
  readable : Bool := true
  writable : Bool := true
  /-- Whether it is what whoever opens a directory has in hand. -/
  isDirectory : Bool := false
  deriving DecidableEq

namespace StoredFile

/-- What views show, as far as it is not zeros. -/
def shown (file : StoredFile) : Content := file.content ++ file.slack

def write (file : StoredFile) (position : Nat) (bytes : Content) : StoredFile :=
  let content := file.content.overwrite position bytes
  let stop := position + bytes.size
  { file with
    content
    slack := file.slack.drop (content.size - file.content.size)
    blocks := PageBlock.written (bytes.size / pageSize + 2) position stop file.blocks }

def resize (file : StoredFile) (isUsed : PageBlock → Bool) (size : Nat) : StoredFile :=
  { file with
    content := file.content.resize size
    slack := {}
    blocks := file.blocks.flatMap (PageBlock.cut isUsed size) }

def memoryEnd (file : StoredFile) : Nat :=
  (file.blocks.map (·.stop)).foldl max (roundToPages file.content.size)

/-- Writes through a shared view. The size stays, and what lies behind the last page is dropped. -/
def poke (file : StoredFile) (position : Nat) (bytes : Content) : StoredFile :=
  let size := file.content.size
  let inside := bytes.take (size - position)
  let room := roundToPages size - size
  let behind := (bytes.drop (size - position)).take (room - (position - size))
  { file with
    content := if inside.isEmpty then file.content else file.content.overwrite position inside
    slack := if behind.isEmpty then file.slack else file.slack.overwrite (position - size) behind }

end StoredFile

end GuestBridge.Posix
