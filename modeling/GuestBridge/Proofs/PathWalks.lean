import GuestBridge.Posix.Path

/-!
Where paths lead, for different purposes and after a name was put into a directory. A walk that
looks for what is there and one that is to create a file end at the same place, unless the second is
refused. Once a free name stands for a new file, the walks that ended at the name end at the file,
and all others end where they did or fail as before.
-/
namespace GuestBridge.Posix

namespace Tree

variable {tree : Tree} {id here : DirectoryId} {name other : String} {node : Node}

theorem present_of_writable (writable : (tree.directory id).writable = true) :
    id.index < tree.directories.size := by
  refine Nat.lt_of_not_le fun absent => ?_
  rw [directory, Array.getElem?_eq_none absent] at writable
  cases writable

theorem directory_add_same (present : id.index < tree.directories.size) :
    (tree.add id name node).directory id =
      { tree.directory id with entries := (name, node) :: (tree.directory id).entries } := by
  simp only [directory, add, Array.getElem?_modify, if_true, Array.getElem?_eq_getElem present,
    Option.map_some, Option.getD_some]

theorem directory_add_ne (different : here ≠ id) :
    (tree.add id name node).directory here = tree.directory here := by
  have apart : id.index ≠ here.index := fun same => different (congrArg DirectoryId.mk same.symm)
  simp only [directory, add, Array.getElem?_modify, if_neg apart]

theorem searchable_add (present : id.index < tree.directories.size) :
    ((tree.add id name node).directory here).searchable = (tree.directory here).searchable := by
  by_cases same : here = id
  · rw [same, directory_add_same present]
  · rw [directory_add_ne same]

theorem parent_add (present : id.index < tree.directories.size) :
    ((tree.add id name node).directory here).parent = (tree.directory here).parent := by
  by_cases same : here = id
  · rw [same, directory_add_same present]
  · rw [directory_add_ne same]

theorem node?_add_same (present : id.index < tree.directories.size) :
    (tree.add id name node).node? id name = some node := by
  rw [node?, directory_add_same present, List.lookup_cons_self]

theorem node?_add_ne (present : id.index < tree.directories.size)
    (different : ¬ (here = id ∧ other = name)) :
    (tree.add id name node).node? here other = tree.node? here other := by
  by_cases same : here = id
  · subst same
    have apart : other ≠ name := fun equal => different ⟨rfl, equal⟩
    rw [node?, directory_add_same present, List.lookup_cons, beq_false_of_ne apart]
    rfl
  · rw [node?, directory_add_ne same, node?]

end Tree

namespace Path

variable {tree : Tree} {purpose : Purpose} {follow other : Walk} {asDirectory : Bool}
  {here id : DirectoryId} {steps : List String} {name : String} {file : FileId} {links : Nat}

/-- A walk that has to end at a directory ends at one, or nowhere. -/
def EndsInDirectory (follow : Walk) : Prop :=
  ∀ here steps destination, follow true here steps = .ok destination →
    ∃ id, destination = .directory id

theorem endsInDirectory_walk (ends : EndsInDirectory follow) :
    EndsInDirectory (walk tree purpose follow) := by
  intro here steps destination leads
  fun_induction walk tree purpose follow true here steps with
  | case1 => exact ⟨_, Except.ok.inj leads.symm⟩
  | case12 => exact ends _ _ _ leads
  | _ => simp_all

theorem endsInDirectory_walkLinks :
    EndsInDirectory (walkLinks tree purpose links) := by
  induction links with
  | zero => exact endsInDirectory_walk fun _ _ _ => nofun
  | succ links ih => exact endsInDirectory_walk ih

/-- How the ends of two walks along one path compare, of which the first only looks: they are the
same, or the second walk is refused. To create a file that may be there, it is refused only where
the first leads to a directory or nowhere. -/
inductive Agrees (purpose : Purpose) :
    Except SystemError Destination → Except SystemError Destination → Prop where
  | same (ending : Except SystemError Destination) : Agrees purpose ending ending
  | refused {looked : Except SystemError Destination} (cause : SystemError)
      (unled : purpose = .create → ∀ destination, looked = .ok destination →
        ∃ id, destination = .directory id) : Agrees purpose looked (.error cause)

theorem agrees_walk (ends : EndsInDirectory follow)
    (agrees : ∀ asDirectory here steps,
      Agrees purpose (follow asDirectory here steps) (other asDirectory here steps)) :
    Agrees purpose (walk tree .look follow asDirectory here steps)
      (walk tree purpose other asDirectory here steps) := by
  induction steps generalizing here with
  | nil => exact .same _
  | cons name rest ih =>
    have looking : asDirectory = true → ∀ destination,
        walk tree .look follow asDirectory here (name :: rest) = .ok destination →
          ∃ id, destination = .directory id := by
      rintro rfl
      exact endsInDirectory_walk ends here (name :: rest)
    rw [walk] at looking
    rw [walk, walk]
    by_cases closed : (!(tree.directory here).searchable) = true
    · simp only [if_pos closed]
      exact .same _
    by_cases dot : name = "."
    · simp only [if_neg closed, if_pos dot]
      exact ih
    by_cases up : name = ".."
    · simp only [if_neg closed, if_neg dot, if_pos up]
      exact ih
    simp only [if_neg closed, if_neg dot, if_neg up, ne_eq, not_true_eq_false, and_false,
      if_false] at looking ⊢
    by_cases slashed : rest = [] ∧ asDirectory = true ∧ ¬ purpose = .look
    · rw [if_pos slashed]
      exact .refused _ fun _ => looking slashed.2.1
    rw [if_neg slashed]
    split
    · exact .same _
    split
    case h_1 => exact ih
    case h_2 => exact .same _
    case h_3 target _ =>
      by_cases fresh : rest = [] ∧ purpose = .createNew
      · rw [if_pos fresh]
        exact .refused _ fun create => by cases fresh.2.symm.trans create
      · rw [if_neg fresh, if_neg (by simp)]
        split
        · exact .same _
        · exact agrees _ _ _
    case h_4 => exact .same _

theorem agrees_walkLinks : Agrees purpose (walkLinks tree .look links asDirectory here steps)
    (walkLinks tree purpose links asDirectory here steps) := by
  induction links generalizing asDirectory here steps with
  | zero => exact agrees_walk (fun _ _ _ => nofun) fun _ _ _ => .same _
  | succ links ih => exact agrees_walk endsInDirectory_walkLinks fun _ _ _ => ih

/-- How the end of a walk compares with what it was before a free name came to stand for a file. -/
inductive Grown (id : DirectoryId) (name : String) (file : FileId) :
    Except SystemError Destination → Except SystemError Destination → Prop where
  | made : Grown id name file (.ok (.missing id name)) (.ok (.file file))
  | same {ending : Except SystemError Destination} (elsewhere : ending ≠ .ok (.missing id name)) :
      Grown id name file ending ending
  | failed (before after : SystemError) : Grown id name file (.error before) (.error after)

theorem grown_walk (present : id.index < tree.directories.size)
    (free : tree.node? id name = none)
    (grown : ∀ asDirectory here steps,
      Grown id name file (follow asDirectory here steps) (other asDirectory here steps)) :
    Grown id name file (walk tree purpose follow asDirectory here steps)
      (walk (tree.add id name (.file file)) purpose other asDirectory here steps) := by
  induction steps generalizing here with
  | nil => exact .same (by simp [walk])
  | cons step rest ih =>
    rw [walk, walk, Tree.searchable_add present, Tree.parent_add present]
    split
    · exact .same nofun
    split
    · exact ih
    split
    · exact ih
    split
    · exact .same nofun
    split
    · exact .same nofun
    by_cases added : here = id ∧ step = name
    -- The name is looked up that was put there: at the end of the path or on the way.
    · obtain ⟨rfl, rfl⟩ := added
      rw [free, Tree.node?_add_same present]
      by_cases last : rest = [] ∧ !asDirectory
      · simp only [if_pos last]
        exact .made
      · simp only [if_neg last]
        exact .failed _ _
    · rw [Tree.node?_add_ne present added]
      split
      case h_1 => exact ih
      case h_2 => split <;> exact .same nofun
      case h_3 target _ =>
        split
        · exact .same nofun
        split
        · exact .same nofun
        · exact grown _ _ _
      case h_4 =>
        split
        · refine .same fun same => added ?_
          cases same
          exact ⟨rfl, rfl⟩
        · exact .same nofun

theorem grown_walkLinks (present : id.index < tree.directories.size)
    (free : tree.node? id name = none) :
    Grown id name file (walkLinks tree purpose links asDirectory here steps)
      (walkLinks (tree.add id name (.file file)) purpose links asDirectory here steps) := by
  induction links generalizing asDirectory here steps with
  | zero => exact grown_walk present free fun _ _ _ => .failed _ _
  | succ links ih => exact grown_walk present free fun _ _ _ => ih

/-- A name that a walk has found to be free. -/
theorem free_of_walk (frees : ∀ asDirectory here steps,
      follow asDirectory here steps = .ok (.missing id name) → tree.node? id name = none)
    (leads : walk tree purpose follow asDirectory here steps = .ok (.missing id name)) :
    tree.node? id name = none := by
  fun_induction walk tree purpose follow asDirectory here steps with
  | case12 => exact frees _ _ _ leads
  | _ => simp_all

theorem free_of_walkLinks
    (leads : walkLinks tree purpose links asDirectory here steps = .ok (.missing id name)) :
    tree.node? id name = none := by
  induction links generalizing asDirectory here steps with
  | zero => exact free_of_walk (fun _ _ _ looped => by cases looped) leads
  | succ links ih => exact free_of_walk (fun _ _ _ => ih) leads

end Path

namespace Tree

variable {tree : Tree} {purpose : Purpose} {path name : String} {id : DirectoryId} {file : FileId}
  {destination : Destination}

theorem agrees_find : Path.Agrees purpose (tree.find path .look) (tree.find path purpose) := by
  unfold find
  split
  · exact .same _
  split
  · exact .same _
  · exact Path.agrees_walkLinks

/-- What a path leads to for any purpose, it leads to for one that only looks. -/
theorem find_look (leads : tree.find path purpose = .ok destination) :
    tree.find path .look = .ok destination := by
  have agrees : Path.Agrees purpose (tree.find path .look) (tree.find path purpose) := agrees_find
  rw [leads] at agrees
  generalize tree.find path .look = ending at agrees
  cases agrees
  rfl

theorem find_create (leads : tree.find path .look = .ok destination)
    (led : ∀ id, destination ≠ .directory id) : tree.find path .create = .ok destination := by
  have agrees : Path.Agrees .create (tree.find path .look) (tree.find path .create) := agrees_find
  rw [leads] at agrees
  generalize tree.find path .create = ending at agrees
  cases agrees with
  | same => rfl
  | refused cause unled =>
    obtain ⟨id, same⟩ := unled rfl destination rfl
    exact absurd same (led id)

theorem free_of_find (leads : tree.find path purpose = .ok (.missing id name)) :
    tree.node? id name = none := by
  unfold find at leads
  split at leads
  · cases leads
  split at leads
  · cases leads
  · exact Path.free_of_walkLinks leads

theorem grown_find (present : id.index < tree.directories.size)
    (free : tree.node? id name = none) (path : String) :
    Path.Grown id name file (tree.find path purpose)
      ((tree.add id name (.file file)).find path purpose) := by
  unfold find
  split
  · exact .failed _ _
  split
  · exact .failed _ _
  · exact Path.grown_walkLinks present free

/-- One file, in the directory where paths start. -/
def single : Tree where
  directories := #[{ parent := root, entries := [("a", .file ⟨0⟩)] }]

theorem find_single (purpose : Purpose) : single.find "a" purpose = .ok (.file ⟨0⟩) := by
  cases purpose <;> rfl

end Tree

end GuestBridge.Posix
