/-!
Names and what they stand for, in the order in which they were first bound. A name that is bound
again keeps its place.
-/
namespace GuestBridge

structure Bindings (content : Type) where
  entries : List (String × content) := []

namespace Bindings

variable {content : Type}

def find? (bindings : Bindings content) (name : String) : Option content :=
  bindings.entries.lookup name

def contents (bindings : Bindings content) : List content := bindings.entries.map (·.2)

/-- Puts the content in place of what the name stood for, or behind all others. -/
def bindIn (name : String) (known : content) : List (String × content) → List (String × content)
  | [] => [(name, known)]
  | entry :: rest =>
    if entry.1 = name then (name, known) :: rest else entry :: bindIn name known rest

def bind (bindings : Bindings content) (name : String) (known : content) : Bindings content :=
  ⟨bindIn name known bindings.entries⟩

def forget (bindings : Bindings content) (name : String) : Bindings content :=
  ⟨bindings.entries.filter (·.1 != name)⟩

/-- The name bound earliest among those whose content is wanted. -/
def nameWhere? (bindings : Bindings content) (wanted : content → Bool) : Option String :=
  (bindings.entries.find? fun entry => wanted entry.2).map (·.1)

end Bindings

end GuestBridge
