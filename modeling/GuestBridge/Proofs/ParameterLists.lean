import GuestBridge.Proofs.TextCuts
import GuestBridge.Signature

/-!
The parameters of a method signature. They are type signatures that follow each other between the
parentheses, and the scan that counts them reads every such list. It also accepts brackets at the
end of the list, and class names without a letter. A text has one reading at most, so that these
two are all that it accepts beyond the lists.
-/
namespace GuestBridge

namespace PrimitiveKind

theorem ofLetter?_letter (kind : PrimitiveKind) : ofLetter? kind.letter = some kind := by
  cases kind <;> rfl

theorem letter_of_ofLetter? {letter : Char} {kind : PrimitiveKind}
    (found : ofLetter? letter = some kind) : kind.letter = letter := by
  simpa using List.find?_some found

theorem letter_injective : Function.Injective letter := by
  intro left right same
  have found := congrArg ofLetter? same
  rwa [ofLetter?_letter, ofLetter?_letter, Option.some.injEq] at found

theorem letter_ne (kind : PrimitiveKind) : kind.letter ≠ '[' ∧ kind.letter ≠ 'L' := by
  cases kind <;> decide

end PrimitiveKind

/-- What stands behind the brackets of a type signature. A class name ends at the first `;`. -/
inductive ElementSignature where
  | primitive (kind : PrimitiveKind)
  | named (name : List Char) (unended : ';' ∉ name)

namespace ElementSignature

def spelling : ElementSignature → List Char
  | primitive kind => [kind.letter]
  | named name _ => 'L' :: (name ++ [';'])

/-- A class has a name. -/
def WellFormed : ElementSignature → Prop
  | primitive _ => True
  | named name _ => name ≠ []

theorem head?_spelling (element : ElementSignature) (rest : List Char) :
    (element.spelling ++ rest).head? ≠ some '[' := by
  cases element with
  | primitive kind => simpa [spelling] using kind.letter_ne.1
  | named name unended => simp [spelling]

theorem spelling_ne_nil (element : ElementSignature) : element.spelling ≠ [] := by
  cases element <;> simp [spelling]

theorem eq_of_spelling {left right : ElementSignature} {leftRest rightRest : List Char}
    (same : left.spelling ++ leftRest = right.spelling ++ rightRest) :
    left = right ∧ leftRest = rightRest := by
  cases left with
  | primitive kind =>
    cases right with
    | primitive other =>
      have ⟨letters, rests⟩ := List.cons.inj same
      exact ⟨congrArg primitive (PrimitiveKind.letter_injective letters), rests⟩
    | named name unended => exact absurd (List.cons.inj same).1 kind.letter_ne.2
  | named name unended =>
    cases right with
    | primitive kind => exact absurd (List.cons.inj same).1.symm kind.letter_ne.2
    | named other otherUnended =>
      simp only [spelling, List.cons_append, List.append_assoc, List.nil_append, List.cons.injEq,
        true_and] at same
      obtain ⟨rfl, rests⟩ := eq_of_separated unended otherUnended same
      exact ⟨rfl, rests⟩

end ElementSignature

/-- One bracket for each array dimension, then the innermost type. -/
structure TypeSignature where
  dimensions : Nat
  element : ElementSignature

namespace TypeSignature

def spelling (signature : TypeSignature) : List Char :=
  List.replicate signature.dimensions '[' ++ signature.element.spelling

theorem eq_of_spelling {left right : TypeSignature} {leftRest rightRest : List Char}
    (same : left.spelling ++ leftRest = right.spelling ++ rightRest) :
    left = right ∧ leftRest = rightRest := by
  obtain ⟨dimensions, element⟩ := left
  obtain ⟨others, other⟩ := right
  simp only [spelling, List.append_assoc] at same
  obtain ⟨rfl, unbracketed⟩ :=
    eq_of_bracketed (element.head?_spelling leftRest) (other.head?_spelling rightRest) same
  obtain ⟨rfl, rests⟩ := ElementSignature.eq_of_spelling unbracketed
  exact ⟨rfl, rests⟩

theorem spelling_ne_brackets (signature : TypeSignature) (rest : List Char) (dangling : Nat) :
    signature.spelling ++ rest ≠ List.replicate dangling '[' := by
  intro same
  rw [spelling, List.append_assoc, ← List.append_nil (List.replicate dangling '[')] at same
  have ⟨_, empty⟩ := eq_of_bracketed (signature.element.head?_spelling rest) (by simp) same
  exact signature.element.spelling_ne_nil (List.append_eq_nil_iff.1 empty).1

end TypeSignature

/-- The text between the parentheses as the scan takes it: type signatures, and brackets behind
the last one that belong to none. -/
structure ParameterText where
  parameters : List TypeSignature
  dangling : Nat

namespace ParameterText

def spelling (text : ParameterText) : List Char :=
  text.parameters.flatMap TypeSignature.spelling ++ List.replicate text.dangling '['

structure WellFormed (text : ParameterText) : Prop where
  closed : text.dangling = 0
  named : ∀ parameter ∈ text.parameters, parameter.element.WellFormed

/-- A bracket in front belongs to the first parameter, if there is one. -/
def bracketed : ParameterText → ParameterText
  | ⟨[], dangling⟩ => ⟨[], dangling + 1⟩
  | ⟨⟨dimensions, element⟩ :: parameters, dangling⟩ =>
    ⟨⟨dimensions + 1, element⟩ :: parameters, dangling⟩

def preceded (element : ElementSignature) (text : ParameterText) : ParameterText :=
  ⟨⟨0, element⟩ :: text.parameters, text.dangling⟩

theorem spelling_bracketed (text : ParameterText) :
    text.bracketed.spelling = '[' :: text.spelling := by
  obtain ⟨_ | ⟨⟨dimensions, element⟩, parameters⟩, dangling⟩ := text <;>
    simp [bracketed, spelling, TypeSignature.spelling, List.replicate_succ]

theorem length_bracketed (text : ParameterText) :
    text.bracketed.parameters.length = text.parameters.length := by
  obtain ⟨_ | ⟨⟨dimensions, element⟩, parameters⟩, dangling⟩ := text <;> rfl

theorem spelling_preceded (element : ElementSignature) (text : ParameterText) :
    (text.preceded element).spelling = element.spelling ++ text.spelling := by
  simp [preceded, spelling, TypeSignature.spelling]

theorem spelling_injective : Function.Injective spelling := by
  rintro ⟨parameters, dangling⟩ ⟨others, otherDangling⟩ same
  simp only [spelling] at same
  induction parameters generalizing others with
  | nil =>
    cases others with
    | nil =>
      have lengths := congrArg List.length same
      simp only [List.flatMap_nil, List.nil_append, List.length_replicate] at lengths
      rw [lengths]
    | cons other others =>
      rw [List.flatMap_cons, List.append_assoc] at same
      exact absurd same.symm (other.spelling_ne_brackets _ _)
  | cons parameter parameters ih =>
    cases others with
    | nil =>
      rw [List.flatMap_cons, List.append_assoc] at same
      exact absurd same (parameter.spelling_ne_brackets _ _)
    | cons other others =>
      rw [List.flatMap_cons, List.flatMap_cons, List.append_assoc, List.append_assoc] at same
      obtain ⟨rfl, rests⟩ := TypeSignature.eq_of_spelling same
      obtain ⟨rfl, rfl⟩ := ParameterText.mk.inj (ih others rests)
      rfl

end ParameterText

/-- What the scan has before it, outside of a class name and inside of one. -/
inductive Reads : Bool → List Char → Nat → Prop
  | outside (text : ParameterText) : Reads false text.spelling text.parameters.length
  | inside {name : List Char} (unended : ';' ∉ name) (text : ParameterText) :
      Reads true (name ++ ';' :: text.spelling) (text.parameters.length + 1)

section Scan

variable {letters rest name : List Char} {inName : Bool} {count : Nat}

theorem count_bracket : countParameters false ('[' :: rest) = countParameters false rest := by
  simp [countParameters]

theorem count_primitive (kind : PrimitiveKind) :
    countParameters false (kind.letter :: rest) = (countParameters false rest).map (· + 1) := by
  have ⟨bare, unnamed⟩ := kind.letter_ne
  simp [countParameters, bare, unnamed, kind.ofLetter?_letter]

theorem count_name (unended : ';' ∉ name) :
    countParameters true (name ++ ';' :: rest) = (countParameters false rest).map (· + 1) := by
  induction name with
  | nil => simp [countParameters]
  | cons letter name ih =>
    have ⟨other, later⟩ : ';' ≠ letter ∧ ';' ∉ name := by simpa using unended
    simpa [countParameters, other.symm] using ih later

theorem count_element (element : ElementSignature) :
    countParameters false (element.spelling ++ rest) =
      (countParameters false rest).map (· + 1) := by
  cases element with
  | primitive kind => exact count_primitive kind
  | named name unended =>
    rw [← count_name unended]
    simp [ElementSignature.spelling, countParameters]

theorem count_signature (signature : TypeSignature) :
    countParameters false (signature.spelling ++ rest) =
      (countParameters false rest).map (· + 1) := by
  obtain ⟨dimensions, element⟩ := signature
  induction dimensions with
  | zero => exact count_element element
  | succ dimensions ih => exact count_bracket.trans ih

theorem count_spelling (text : ParameterText) :
    countParameters false text.spelling = some text.parameters.length := by
  obtain ⟨parameters, dangling⟩ := text
  induction parameters with
  | nil =>
    induction dangling with
    | zero => rfl
    | succ dangling ih => exact count_bracket.trans ih
  | cons parameter parameters ih =>
    simp only [ParameterText.spelling, List.flatMap_cons, List.append_assoc] at ih ⊢
    rw [count_signature, ih]
    rfl

theorem Reads.of_spelling {text : ParameterText} (spelled : text.spelling = letters)
    (length : text.parameters.length = count) : Reads false letters count := by
  subst spelled length
  exact .outside text

theorem Reads.bracket (reads : Reads false rest count) : Reads false ('[' :: rest) count := by
  obtain ⟨text⟩ := reads
  exact .of_spelling text.spelling_bracketed text.length_bracketed

theorem Reads.primitive (kind : PrimitiveKind) (reads : Reads false rest count) :
    Reads false (kind.letter :: rest) (count + 1) := by
  obtain ⟨text⟩ := reads
  exact .of_spelling (text.spelling_preceded (.primitive kind)) rfl

theorem Reads.named (reads : Reads true rest count) : Reads false ('L' :: rest) count := by
  obtain _ | @⟨name, unended, text⟩ := reads
  refine .of_spelling ((text.spelling_preceded (.named name unended)).trans ?_) rfl
  simp [ElementSignature.spelling]

theorem Reads.ended (reads : Reads false rest count) : Reads true (';' :: rest) (count + 1) := by
  obtain ⟨text⟩ := reads
  exact .inside (List.not_mem_nil) text

theorem Reads.onward {letter : Char} (other : letter ≠ ';') (reads : Reads true rest count) :
    Reads true (letter :: rest) count := by
  obtain _ | @⟨name, unended, text⟩ := reads
  have free : ';' ∉ letter :: name := by simp [other.symm, unended]
  exact .inside free text

theorem reads_of_count (counted : countParameters inName letters = some count) :
    Reads inName letters count := by
  -- one letter at a time, from either state of the scan
  induction letters generalizing inName count with
  | nil =>
    cases inName with
    | true => simp [countParameters] at counted
    | false =>
      obtain rfl : 0 = count := by simpa [countParameters] using counted
      exact .outside ⟨[], 0⟩
  | cons letter rest ih =>
    cases inName with
    | true =>
      by_cases ends : letter = ';'
      · subst ends
        simp only [countParameters, if_true, Option.map_eq_some_iff] at counted
        obtain ⟨before, scanned, rfl⟩ := counted
        exact (ih scanned).ended
      · simp only [countParameters, if_true, if_neg ends] at counted
        exact (ih counted).onward ends
    | false =>
      by_cases bracket : letter = '['
      · subst bracket
        exact (ih (count_bracket.symm.trans counted)).bracket
      by_cases named : letter = 'L'
      · subst named
        simp only [countParameters] at counted
        exact (ih counted).named
      -- any other letter is that of a primitive, or the scan has stopped
      simp only [countParameters, Bool.false_eq_true, if_false, if_neg bracket, if_neg named]
        at counted
      split at counted
      case isFalse => cases counted
      case isTrue known =>
        obtain ⟨kind, found⟩ := Option.isSome_iff_exists.1 known
        obtain rfl := PrimitiveKind.letter_of_ofLetter? found
        obtain ⟨before, scanned, rfl⟩ := Option.map_eq_some_iff.1 counted
        exact .primitive kind (ih scanned)

theorem count_eq_some_iff :
    countParameters false letters = some count ↔
      ∃ text : ParameterText, text.spelling = letters ∧ text.parameters.length = count := by
  constructor
  · intro counted
    obtain ⟨text⟩ := reads_of_count counted
    exact ⟨text, rfl, rfl⟩
  · rintro ⟨text, rfl, rfl⟩
    exact count_spelling text

end Scan

/-- The text from the opening parenthesis to the first closing one. -/
def Encloses (signature : String) (letters : List Char) : Prop :=
  ')' ∉ letters ∧ ∃ returned, signature.toList = '(' :: (letters ++ ')' :: returned)

/-- Type signatures follow each other, as many as are counted. -/
def ListsParameters (letters : List Char) (count : Nat) : Prop :=
  ∃ parameters : List TypeSignature, (∀ parameter ∈ parameters, parameter.element.WellFormed) ∧
    parameters.flatMap TypeSignature.spelling = letters ∧ parameters.length = count

variable {signature : String} {letters others : List Char} {count : Nat}

theorem Encloses.unique (first : Encloses signature letters) (second : Encloses signature others) :
    letters = others := by
  obtain ⟨free, returned, opened⟩ := first
  obtain ⟨otherFree, otherReturned, otherOpened⟩ := second
  have same := (List.cons.inj (opened.symm.trans otherOpened)).2
  exact (eq_of_separated free otherFree same).1

theorem Encloses.parameterCount?_eq (encloses : Encloses signature letters) :
    parameterCount? signature = countParameters false letters := by
  obtain ⟨free, returned, opened⟩ := encloses
  have cut : (letters ++ ')' :: returned).takeWhile (· ≠ ')') = letters := takeWhile_separated free
  have closes : ')' ∈ letters ++ ')' :: returned := by simp
  simp only [parameterCount?, opened]
  rw [if_pos closes, cut]

theorem exists_encloses (counted : parameterCount? signature = some count) :
    ∃ letters, Encloses signature letters := by
  unfold parameterCount? at counted
  split at counted
  case h_1 rest opened =>
    split at counted
    case isTrue closes =>
      obtain ⟨letters, returned, rfl, free⟩ := List.eq_append_cons_of_mem closes
      exact ⟨letters, free, returned, opened⟩
    case isFalse => cases counted
  case h_2 => cases counted

theorem parameterCount?_eq_some_iff :
    parameterCount? signature = some count ↔
      ∃ text : ParameterText,
        Encloses signature text.spelling ∧ text.parameters.length = count := by
  constructor
  · intro counted
    obtain ⟨letters, encloses⟩ := exists_encloses counted
    rw [encloses.parameterCount?_eq] at counted
    obtain ⟨text, rfl, length⟩ := count_eq_some_iff.1 counted
    exact ⟨text, encloses, length⟩
  · rintro ⟨text, encloses, rfl⟩
    rw [encloses.parameterCount?_eq, count_spelling]

theorem lists_iff :
    ListsParameters letters count ↔ ∃ text : ParameterText,
      text.WellFormed ∧ text.spelling = letters ∧ text.parameters.length = count := by
  constructor
  · rintro ⟨parameters, named, rfl, rfl⟩
    exact ⟨⟨parameters, 0⟩, ⟨rfl, named⟩, by simp [ParameterText.spelling], rfl⟩
  · rintro ⟨⟨parameters, dangling⟩, ⟨closed, named⟩, rfl, rfl⟩
    obtain rfl : dangling = 0 := closed
    exact ⟨parameters, named, by simp [ParameterText.spelling], rfl⟩

theorem encloses_lists_iff :
    (∃ letters, Encloses signature letters ∧ ListsParameters letters count) ↔
      parameterCount? signature = some count ∧
        ∀ text : ParameterText, Encloses signature text.spelling → text.WellFormed := by
  constructor
  · rintro ⟨letters, encloses, lists⟩
    obtain ⟨text, wellFormed, rfl, length⟩ := lists_iff.1 lists
    refine ⟨parameterCount?_eq_some_iff.2 ⟨text, encloses, length⟩, fun other otherEncloses => ?_⟩
    obtain rfl := ParameterText.spelling_injective (otherEncloses.unique encloses)
    exact wellFormed
  · rintro ⟨counted, wellFormed⟩
    obtain ⟨text, encloses, length⟩ := parameterCount?_eq_some_iff.1 counted
    exact ⟨_, encloses, lists_iff.2 ⟨text, wellFormed text encloses, rfl, length⟩⟩

/-- A signature has a count exactly if the scan can read its parameters, and it can read them in
one way only. The signature lists so many parameters exactly if that reading leaves no bracket over
and no class without a name. -/
theorem parameters_counted (signature : String) (count : Nat) :
    (parameterCount? signature = some count ↔
      ∃ text : ParameterText,
        Encloses signature text.spelling ∧ text.parameters.length = count) ∧
    (∀ text other : ParameterText, Encloses signature text.spelling →
      Encloses signature other.spelling → text = other) ∧
    ((∃ letters, Encloses signature letters ∧ ListsParameters letters count) ↔
      parameterCount? signature = some count ∧
        ∀ text : ParameterText, Encloses signature text.spelling → text.WellFormed) := by
  refine ⟨parameterCount?_eq_some_iff, fun text other first second => ?_, encloses_lists_iff⟩
  exact ParameterText.spelling_injective (first.unique second)

/-- The names of the classes have letters of primitives and a bracket in them. -/
theorem parameters_counted_of_nested :
    let signature := "(Ljava.lang.String;[J[[LI[.Z;Z)V"
    parameterCount? signature = some 4 ∧
      ∃ letters, Encloses signature letters ∧ ListsParameters letters 4 := by
  intro signature
  let text : ParameterText :=
    { parameters :=
        [⟨0, .named "java.lang.String".toList (by decide)⟩, ⟨1, .primitive .long⟩,
          ⟨2, .named "I[.Z".toList (by decide)⟩, ⟨0, .primitive .boolean⟩]
      dangling := 0 }
  have encloses : Encloses signature text.spelling := ⟨by decide, ['V'], by decide⟩
  obtain ⟨counted, unique, lists⟩ := parameters_counted signature 4
  have count := counted.2 ⟨text, encloses, rfl⟩
  have wellFormed : text.WellFormed :=
    { closed := rfl
      named := by simp [text, ElementSignature.WellFormed] }
  exact ⟨count, lists.2 ⟨count, fun other read => unique text other encloses read ▸ wellFormed⟩⟩

/-- A bracket that stands alone counts nothing, and a class without a name counts as one. -/
theorem counted_beyond_lists :
    (parameterCount? "([)V" = some 0 ∧
      ¬ ∃ letters, Encloses "([)V" letters ∧ ListsParameters letters 0) ∧
    parameterCount? "(L;)V" = some 1 ∧
      ¬ ∃ letters, Encloses "(L;)V" letters ∧ ListsParameters letters 1 := by
  refine ⟨⟨by decide, fun lists => ?_⟩, by decide, fun lists => ?_⟩
  · have wellFormed := (encloses_lists_iff.1 lists).2 ⟨[], 1⟩ ⟨by decide, ['V'], by decide⟩
    cases wellFormed.closed
  · have wellFormed := (encloses_lists_iff.1 lists).2
      ⟨[⟨0, .named [] List.not_mem_nil⟩], 0⟩ ⟨by decide, ['V'], by decide⟩
    exact wellFormed.named _ (List.mem_singleton_self _) rfl

end GuestBridge
