import GuestBridge.Posix.SharedObject.Segment

/-!
The memory that every thread has from its start. Objects that come later can get blocks of it, as
long as some is left; their places are counted from one end, so that a block is known by where it
stops. What is given back is free again only if nothing lies behind it.
-/
namespace GuestBridge.Posix

open SharedObject

/-- Where threads have their own memory for an object: that can still be open, it can be a block of
what they have from their start, or it is made when it is asked for. -/
inductive ThreadPlace where
  | undecided
  | fixed (stop : Nat)
  | onDemand
  deriving DecidableEq

structure ThreadSpace where
  taken : Nat := 0
  /-- How much there is for objects that can do without. -/
  spare : Nat := 512
  deriving DecidableEq

structure ThreadBlock where
  stop : Nat
  size : Nat

namespace ThreadBlock

def start (block : ThreadBlock) : Nat := block.stop - block.size

end ThreadBlock

namespace ThreadSpace

def room : Nat := 1696

def strictest : Nat := 64

def free (space : ThreadSpace) : Nat := room - space.taken

/-- How far the start of a segment is from an aligned address. -/
def offset (segment : Segment) : Nat := segment.address % Nat.pow 2 64 &&& (segment.alignment - 1)

/-- What a segment takes: as little as leaves an aligned place free behind it. -/
def use (space : ThreadSpace) (segment : Segment) : Nat :=
  let leftOver := space.free - segment.memorySize - offset segment
  space.free - leftOver / segment.alignment * segment.alignment - offset segment

/-- The memory once a segment has a block of it, the last one there is, if the block can be had. -/
def place? (space : ThreadSpace) (segment : Segment) (isOptional : Bool) : Option ThreadSpace :=
  let use := space.use segment
  if strictest < segment.alignment ∨ space.free < segment.memorySize + offset segment ∨
      isOptional ∧ space.spare < use then
    none
  else
    some {
      taken := space.taken + use
      spare := if isOptional then space.spare - use else space.spare }

/-- Gives a block back to the memory and to a stretch of others that were given back before, which
is still to be cut off. -/
def giveBack : ThreadSpace × Option ThreadBlock → ThreadBlock → ThreadSpace × Option ThreadBlock
  | (space, none), block => (space, some block)
  | (space, some stretch), block =>
    if block.stop = stretch.start then
      (space, some ⟨stretch.stop, stretch.size + block.size⟩)
    else if block.start = stretch.stop then (space, some ⟨block.stop, stretch.size + block.size⟩)
    else if stretch.stop = space.taken then ({ space with taken := stretch.start }, some block)
    else if block.stop = space.taken then ({ space with taken := block.start }, some stretch)
    else (space, some block)

def release (space : ThreadSpace) (blocks : List ThreadBlock) : ThreadSpace :=
  match blocks.foldl giveBack (space, none) with
  | (after, some stretch) =>
    if stretch.stop = after.taken then { after with taken := stretch.start } else after
  | (after, none) => after

end ThreadSpace

end GuestBridge.Posix
