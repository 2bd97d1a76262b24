import Mathlib.Data.List.Basic

/-!
The first member of a list that is of some kind. A look-up answers it, and where the members are
looked up in turn the failure is about the first that is missing.
-/
namespace GuestBridge

variable {member : Type} {like : member → Prop} {head found : member} {rest members : List member}

/-- The member is of the kind, and none before it is. -/
def FirstOf (members : List member) (like : member → Prop) (found : member) : Prop :=
  like found ∧
    ∃ earlier later, members = earlier ++ found :: later ∧ ∀ other ∈ earlier, ¬ like other

namespace FirstOf

theorem mem (first : FirstOf members like found) : found ∈ members := by
  obtain ⟨-, earlier, later, rfl, -⟩ := first
  simp

theorem cons_iff :
    FirstOf (head :: rest) like found ↔
      (like head ∧ found = head) ∨ (¬ like head ∧ FirstOf rest like found) := by
  constructor
  · rintro ⟨fits, _ | ⟨other, earlier⟩, later, same, misfits⟩
    · obtain ⟨rfl, rfl⟩ := List.cons.inj same
      exact .inl ⟨fits, rfl⟩
    · obtain ⟨rfl, rfl⟩ := List.cons.inj same
      have ⟨misfit, others⟩ := List.forall_mem_cons.1 misfits
      exact .inr ⟨misfit, fits, earlier, later, rfl, others⟩
  · rintro (⟨fits, rfl⟩ | ⟨misfit, fits, earlier, later, rfl, misfits⟩)
    · exact ⟨fits, [], rest, rfl, by simp⟩
    · exact ⟨fits, head :: earlier, later, rfl, List.forall_mem_cons.2 ⟨misfit, misfits⟩⟩

theorem unique {other : member} (first : FirstOf members like found)
    (second : FirstOf members like other) : found = other := by
  induction members with
  | nil => cases first.mem
  | cons head rest ih =>
    rcases cons_iff.1 first with ⟨fits, rfl⟩ | ⟨misfit, later⟩
    · rcases cons_iff.1 second with ⟨-, same⟩ | ⟨misfit, -⟩
      · exact same.symm
      · exact absurd fits misfit
    · rcases cons_iff.1 second with ⟨fits, -⟩ | ⟨-, otherLater⟩
      · exact absurd fits misfit
      · exact ih later otherLater

/-- There is a first member of the kind if there is one at all. -/
theorem exists_iff : (∃ found, FirstOf members like found) ↔ ∃ found ∈ members, like found := by
  constructor
  · rintro ⟨found, first⟩
    exact ⟨found, first.mem, first.1⟩
  · intro among
    induction members with
    | nil => simp at among
    | cons head rest ih =>
      by_cases fits : like head
      · exact ⟨head, cons_iff.2 (.inl ⟨fits, rfl⟩)⟩
      · obtain ⟨found, first⟩ := ih (by simpa [fits] using among)
        exact ⟨found, cons_iff.2 (.inr ⟨fits, first⟩)⟩

theorem find?_iff {test : member → Bool} :
    members.find? test = some found ↔ FirstOf members (test · = true) found := by
  simp [List.find?_eq_some_iff_append, FirstOf]

end FirstOf

section Checked

variable {result fault : Type} {look : member → Option result} {refusal : member → fault}
  {failure : fault} {results : List result}

/-- The result that is looked up, or the failure that is about its member. -/
def looked (look : member → Option result) (refusal : member → fault) (asked : member) :
    Except fault result :=
  match look asked with
  | some result => .ok result
  | none => .error (refusal asked)

theorem mapM_looked_eq_error_iff :
    members.mapM (looked look refusal) = .error failure ↔
      ∃ found, FirstOf members (look · = none) found ∧ failure = refusal found := by
  induction members with
  | nil => simp [FirstOf, pure, Except.pure]
  | cons head rest ih =>
    simp only [List.mapM_cons, FirstOf.cons_iff]
    cases found : look head with
    | none => simp [looked, found, bind, Except.bind, eq_comm]
    | some result =>
      simp only [looked, found, reduceCtorEq, false_and, not_false_eq_true, true_and, false_or]
      rw [← ih]
      cases rest.mapM (looked look refusal) <;> simp [bind, Except.bind, pure, Except.pure]

theorem map_of_mapM_looked (passed : members.mapM (looked look refusal) = .ok results) :
    members.map look = results.map some := by
  induction members generalizing results with
  | nil =>
    cases passed
    rfl
  | cons head rest ih =>
    simp only [List.mapM_cons] at passed
    cases found : look head with
    | none => simp [looked, found, bind, Except.bind] at passed
    | some result =>
      cases later : rest.mapM (looked look refusal) with
      | error refused => simp [looked, found, later, bind, Except.bind] at passed
      | ok others =>
        obtain rfl : result :: others = results := by
          simpa [looked, found, later, bind, Except.bind, pure, Except.pure] using passed
        simp [found, ih later]

end Checked

/-- An entry that takes the place of the one of its key is found, and the others as before. -/
theorem lookup_replaced {key value : Type} [DecidableEq key]
    (entries : List (key × value)) (replaced other : key) (held : value) :
    ((replaced, held) :: entries.filter (·.1 != replaced)).lookup other =
      if other = replaced then some held else entries.lookup other := by
  by_cases same : other = replaced
  · simp [same]
  · rw [List.lookup_cons, beq_false_of_ne same, if_neg same]
    induction entries with
    | nil => rfl
    | cons entry rest ih =>
      obtain ⟨name, kept⟩ := entry
      by_cases removed : name = replaced
      · subst removed
        simpa [List.lookup_cons, beq_false_of_ne same] using ih
      · by_cases found : other = name <;> simp [List.lookup_cons, removed, found, ih]

end GuestBridge
