import Mathlib.Data.List.Basic

/-!
Where a text can be cut in one way only: behind its leading brackets, at the first separator, and at
the last one.
-/
namespace GuestBridge

variable {separator : Char} {text left right rest leftRest rightRest : List Char}

theorem takeWhile_separated (free : separator ∉ text) :
    (text ++ separator :: rest).takeWhile (· ≠ separator) = text := by
  rw [List.takeWhile_append_of_pos, List.takeWhile_cons_of_neg, List.append_nil]
  · simp
  · intro letter member
    simpa using ne_of_mem_of_not_mem member free

/-- Two texts that are the same up to a separator are cut at the same place. -/
theorem eq_of_separated (leftFree : separator ∉ left) (rightFree : separator ∉ right)
    (same : left ++ separator :: leftRest = right ++ separator :: rightRest) :
    left = right ∧ leftRest = rightRest := by
  have lefts := congrArg (List.takeWhile (· ≠ separator)) same
  rw [takeWhile_separated leftFree, takeWhile_separated rightFree] at lefts
  subst lefts
  exact ⟨rfl, (List.cons.inj (List.append_cancel_left same)).2⟩

theorem eq_of_separated_last (leftFree : separator ∉ leftRest) (rightFree : separator ∉ rightRest)
    (same : left ++ separator :: leftRest = right ++ separator :: rightRest) :
    left = right ∧ leftRest = rightRest := by
  have backwards : leftRest.reverse ++ separator :: left.reverse =
      rightRest.reverse ++ separator :: right.reverse := by
    simpa using congrArg List.reverse same
  have leftFree : separator ∉ leftRest.reverse := by simpa using leftFree
  have rightFree : separator ∉ rightRest.reverse := by simpa using rightFree
  obtain ⟨rests, fronts⟩ := eq_of_separated leftFree rightFree backwards
  exact ⟨List.reverse_injective fronts, List.reverse_injective rests⟩

/-- Leading brackets can be counted if something else follows. -/
theorem eq_of_bracketed {dimensions others : Nat} (leftBare : left.head? ≠ some '[')
    (rightBare : right.head? ≠ some '[')
    (same : List.replicate dimensions '[' ++ left = List.replicate others '[' ++ right) :
    dimensions = others ∧ left = right := by
  induction dimensions generalizing others with
  | zero =>
    cases others with
    | zero => exact ⟨rfl, same⟩
    | succ others =>
      subst same
      simp [List.replicate_succ] at leftBare
  | succ dimensions ih =>
    cases others with
    | zero =>
      subst same
      simp [List.replicate_succ] at rightBare
    | succ others =>
      simp only [List.replicate_succ, List.cons_append, List.cons.injEq, true_and] at same
      obtain ⟨number, rest⟩ := ih same
      exact ⟨congrArg (· + 1) number, rest⟩

end GuestBridge
