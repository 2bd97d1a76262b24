import GuestBridge.MapMode
import GuestBridge.Posix.StoredFile

/-!
Views of files in memory. A shared view shows the file itself; the pages of a copy-on-write view
that were written are its own, and stay as they are until the file is cut off before them. Bytes of
a view beyond the end of the file read as zero.
-/
namespace GuestBridge.Posix

/-- Pages that a copy-on-write view has to itself, from a position in the view on. -/
structure OwnPages where
  start : Nat
  content : Content
  deriving DecidableEq

/-- A view of a file from an offset on. Later own pages lie over the earlier ones, which are behind
them in the list. -/
structure View where
  address : UInt64
  file : FileId
  offset : Nat
  length : Nat
  mode : MapMode
  ownPages : List OwnPages := []
  deriving DecidableEq

namespace View

def pages (view : View) (file : StoredFile) : Content :=
  view.ownPages.foldr (fun own shown => shown.overwrite own.start own.content)
    ((file.shown.drop view.offset).resize (roundToPages view.length))

def content (view : View) (file : StoredFile) : Content := (view.pages file).take view.length

def write (view : View) (file : StoredFile) (position : Nat) (bytes : Content) : View :=
  if bytes.isEmpty then view
  else
    let start := position / pageSize * pageSize
    let stop := roundToPages (position + bytes.size)
    let touched := (view.pages file).slice start (stop - start)
    let own : OwnPages := ⟨start, touched.overwrite (position - start) bytes⟩
    { view with ownPages := own :: view.ownPages }

/-- The view once its file was given a size: the pages behind the new end are the file's again. -/
def cut (view : View) (size : Nat) : View :=
  let limit := roundToPages size - view.offset
  { view with
    ownPages := view.ownPages.map fun own =>
      { own with content := own.content.take (limit - own.start) } }

end View

end GuestBridge.Posix
