import GuestBridge.Backend
import GuestBridge.MemoryPressure
import GuestBridge.Stream
import GuestBridge.TagStore

/-!
Everything that bridges share and change: the heap, the tags of objects, the streams with the
system under them, the memory counters, and the state of the backends.
-/
namespace GuestBridge

structure World (state : Type) where
  heap : Heap := {}
  tags : TagStore := { interval := TagStore.sharedInterval }
  streams : Streams := {}
  counters : Counters := {}
  backends : state

namespace World

variable {state failure result : Type}

def heapPart : Focus (World state) Heap :=
  ⟨heap, fun after world => { world with heap := after }⟩

def streamsPart : Focus (World state) Streams :=
  ⟨streams, fun after world => { world with streams := after }⟩

def machinePart : Focus (World state) (Machine state) where
  get world := ⟨world.backends, world.streams.system⟩
  set after world :=
    { world with
      backends := after.own
      streams := { world.streams with system := after.system } }

def onHeap (action : Action Heap failure result) : Action (World state) failure result :=
  action.within heapPart

def onStreams (action : Action Streams failure result) : Action (World state) failure result :=
  action.within streamsPart

def onMachine (action : Action (Machine state) failure result) :
    Action (World state) failure result :=
  action.within machinePart

def changeCounters (change : Counters → Counters) : Action (World state) failure Unit :=
  modify fun world => { world with counters := change world.counters }

end World

end GuestBridge
