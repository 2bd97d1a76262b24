import GuestBridge.Posix.Content

/-!
Blocks of pages. Pages that are written in one go come into memory in blocks, the larger the more
there is to write, and a file that is cut off inside a block keeps the block if somebody still uses
it.
-/
namespace GuestBridge.Posix

def pageSize : Nat := 4096

/-- The length of the whole pages that so many bytes take. -/
def roundToPages (length : Nat) : Nat := (length + pageSize - 1) / pageSize * pageSize

/-- A block of as many pages as two to the power of its order, the one with that index among the
blocks of its order. -/
structure PageBlock where
  order : Nat
  index : Nat
  deriving DecidableEq

namespace PageBlock

def length (block : PageBlock) : Nat := Nat.pow 2 block.order * pageSize

def start (block : PageBlock) : Nat := block.index * block.length

def stop (block : PageBlock) : Nat := block.start + block.length

def contains (block : PageBlock) (position : Nat) : Bool :=
  block.start ≤ position && position < block.stop

def meets (left right : PageBlock) : Bool := left.start < right.stop && right.start < left.stop

/-- The order of the largest blocks. -/
def largestOrder : Nat := 9

def longest : Nat := Nat.pow 2 largestOrder * pageSize

/-- The largest block up to an order that starts with a page and meets no other. -/
def fitting (others : List PageBlock) (page : Nat) : Nat → PageBlock
  | 0 => ⟨0, page⟩
  | order + 1 =>
    let block : PageBlock := ⟨order + 1, page / Nat.pow 2 (order + 1)⟩
    if page % Nat.pow 2 (order + 1) = 0 && !others.any block.meets then block
    else fitting others page order

/-- The blocks once bytes were written from a position up to another one. -/
def written : Nat → (position stop : Nat) → List PageBlock → List PageBlock
  | 0, _, _, blocks => blocks
  | fuel + 1, position, stop, blocks =>
    if stop ≤ position then blocks
    else
      match blocks.find? (·.contains position) with
      | some block => written fuel block.stop stop blocks
      | none =>
        let length := min (stop - position) (longest - position % longest)
        let order := min largestOrder (length / pageSize).log2
        let block := fitting blocks (position / pageSize) order
        written fuel block.stop stop (block :: blocks)

/-- The parts of a block that is taken to pieces around a page: that page by itself, and the halves
beside it at every step. -/
def partsAround (page : Nat) : (order index : Nat) → List PageBlock
  | 0, index => [⟨0, index⟩]
  | order + 1, index =>
    let lower := 2 * index
    let upper := 2 * index + 1
    if page / Nat.pow 2 order = lower then partsAround page order lower ++ [⟨order, upper⟩]
    else ⟨order, lower⟩ :: partsAround page order upper

/-- What is left of a block when its file gets a size. One that is in use is left as it is unless it
lies behind the end. -/
def cut (isUsed : PageBlock → Bool) (size : Nat) (block : PageBlock) : List PageBlock :=
  if block.stop ≤ size || block.start < size && isUsed block then [block]
  else if size ≤ block.start then []
  else (partsAround (size / pageSize) block.order block.index).filter (·.start < size)

end PageBlock

end GuestBridge.Posix
