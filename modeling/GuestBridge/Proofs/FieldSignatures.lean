import GuestBridge.Proofs.FieldStorage
import GuestBridge.Proofs.FirstMatches
import GuestBridge.Proofs.ParameterLists

/-!
Signatures of fields against the types that they name. Every type is accepted, with the kind that
its fields store. Only the ends of a signature are looked at, so some that name no type are
accepted too: classes with a separator in the name, and arrays of what is no type. A class is
defined exactly if all its fields are accepted.
-/
namespace GuestBridge

def TypeSignature.fieldKind : TypeSignature → FieldKind
  | ⟨0, .primitive kind⟩ => .primitive kind
  | _ => .reference

/-- The letters are those of one type, whose fields store that. -/
def NamesType (letters : List Char) (kind : FieldKind) : Prop :=
  ∃ type : TypeSignature,
    type.element.WellFormed ∧ type.spelling = letters ∧ type.fieldKind = kind

/-- The ends of a signature, with something between them or behind the bracket. -/
inductive HasEnds : List Char → FieldKind → Prop
  | primitive (kind : PrimitiveKind) : HasEnds [kind.letter] (.primitive kind)
  | named {name : List Char} (given : name ≠ []) : HasEnds ('L' :: (name ++ [';'])) .reference
  | array {element : List Char} (given : element ≠ []) : HasEnds ('[' :: element) .reference

/-- What stands between the ends is a name, and what stands behind the bracket a type. -/
structure Filled (letters : List Char) : Prop where
  unended : ∀ name, letters = 'L' :: (name ++ [';']) → ';' ∉ name
  element : ∀ element, letters = '[' :: element → ∃ kind, NamesType element kind

variable {letters name : List Char} {signature : String} {kind : FieldKind}

theorem NamesType.hasEnds (names : NamesType letters kind) : HasEnds letters kind := by
  obtain ⟨⟨_ | dimensions, element⟩, wellFormed, rfl, rfl⟩ := names
  · cases element with
    | primitive kind => exact .primitive kind
    | named name unended => exact .named wellFormed
  · have given : TypeSignature.spelling ⟨dimensions, element⟩ ≠ [] := by
      simp [TypeSignature.spelling, element.spelling_ne_nil]
    exact .array given

theorem NamesType.filled (names : NamesType letters kind) : Filled letters := by
  obtain ⟨⟨_ | dimensions, element⟩, wellFormed, rfl, rfl⟩ := names
  · cases element with
    | primitive kind =>
      exact ⟨fun name same => absurd (List.cons.inj same).1 kind.letter_ne.2,
        fun element same => absurd (List.cons.inj same).1 kind.letter_ne.1⟩
    | named name unended =>
      refine ⟨fun other same => ?_, fun element same => ?_⟩
      · rw [← List.append_cancel_right (List.cons.inj same).2]
        exact unended
      · cases (List.cons.inj same).1
  · refine ⟨fun name same => ?_, fun behind same => ?_⟩
    · cases (List.cons.inj same).1
    · rw [← (List.cons.inj same).2]
      exact ⟨_, ⟨dimensions, element⟩, wellFormed, rfl, rfl⟩

/-- A type is named exactly where the ends are right and what they enclose is. -/
theorem namesType_iff : NamesType letters kind ↔ HasEnds letters kind ∧ Filled letters := by
  refine ⟨fun names => ⟨names.hasEnds, names.filled⟩, fun ⟨ends, filled⟩ => ?_⟩
  cases ends with
  | primitive kind => exact ⟨⟨0, .primitive kind⟩, trivial, rfl, rfl⟩
  | @named name given => exact ⟨⟨0, .named name (filled.unended name rfl)⟩, given, rfl, rfl⟩
  | @array element given =>
    obtain ⟨_, ⟨dimensions, element⟩, wellFormed, rfl, -⟩ := filled.element element rfl
    exact ⟨⟨dimensions + 1, element⟩, wellFormed, rfl, rfl⟩

namespace FieldKind

theorem hasEnds_of_ofSignature? (accepted : ofSignature? signature = some kind) :
    HasEnds signature.toList kind := by
  unfold ofSignature? at accepted
  split at accepted
  case h_1 name opened =>
    rw [Option.ite_none_right_eq_some] at accepted
    obtain ⟨⟨ended, long⟩, same⟩ := accepted
    cases same
    obtain ⟨inner, rfl⟩ := List.getLast?_eq_some_iff.1 ended
    have given : inner ≠ [] := by
      rintro rfl
      simp at long
    exact opened ▸ .named given
  case h_2 element opened =>
    split at accepted
    case isTrue => cases accepted
    case isFalse given =>
      cases accepted
      exact opened ▸ .array given
  case h_3 letter _ _ opened =>
    obtain ⟨primitive, known, rfl⟩ := Option.map_eq_some_iff.1 accepted
    rw [opened, ← PrimitiveKind.letter_of_ofLetter? known]
    exact .primitive primitive
  case h_4 => cases accepted

theorem ofSignature?_of_hasEnds (ends : HasEnds signature.toList kind) :
    ofSignature? signature = some kind := by
  unfold ofSignature?
  generalize signature.toList = letters at ends
  cases ends with
  | primitive kind => cases kind <;> rfl
  | @named name given =>
    have long := List.length_pos_iff.2 given
    simp [long]
  | array given => simp [given]

theorem ofSignature?_eq_some_iff :
    ofSignature? signature = some kind ↔ HasEnds signature.toList kind :=
  ⟨hasEnds_of_ofSignature?, ofSignature?_of_hasEnds⟩

end FieldKind

def FieldDeclaration.Refused (declaration : FieldDeclaration) : Prop :=
  ∀ kind, ¬ HasEnds declaration.signature.toList kind

namespace FieldDeclaration

variable {declaration : FieldDeclaration}

theorem refused_iff :
    declaration.Refused ↔ FieldKind.ofSignature? declaration.signature = none := by
  simp only [Refused, ← FieldKind.ofSignature?_eq_some_iff, Option.eq_none_iff_forall_not_mem,
    Option.mem_def]

theorem not_refused_of_namesType (names : NamesType declaration.signature.toList kind) :
    ¬ declaration.Refused :=
  fun refused => refused kind names.hasEnds

end FieldDeclaration

theorem layOutFields_eq_error_iff {nextStatic nextInstance : Nat}
    {declarations : List FieldDeclaration} {fault : Fault} :
    layOutFields nextStatic nextInstance declarations = .error fault ↔
      ∃ declaration, FirstOf declarations FieldDeclaration.Refused declaration ∧
        fault = .wrongValueKind "field signature" declaration.signature := by
  -- A refusal does not depend on the places, which differ for the rest of the fields.
  induction declarations generalizing nextStatic nextInstance with
  | nil => simp [layOutFields, FirstOf]
  | cons head rest ih =>
    simp only [FirstOf.cons_iff]
    rw [layOutFields]
    cases named : FieldKind.ofSignature? head.signature with
    | none =>
      have refused : head.Refused := FieldDeclaration.refused_iff.2 named
      simp [refused, eq_comm]
    | some kind =>
      have accepted : ¬ head.Refused := by simp [FieldDeclaration.refused_iff, named]
      have later {outcome : Except Fault (List HostField)} (field : HostField) :
          outcome.map (field :: ·) = .error fault ↔ outcome = .error fault := by
        cases outcome <;> simp [Except.map]
      simp only [accepted, false_and, not_false_eq_true, true_and, false_or, later]
      split
      · exact ih
      · exact ih

namespace ClassDefinition

variable {definition : ClassDefinition} {heap after : Heap} {fault : Fault}

theorem run_define_eq_error_iff :
    definition.define.run heap = (.error fault, after) ↔ after = heap ∧
      ∃ declaration, FirstOf definition.fields FieldDeclaration.Refused declaration ∧
        fault = .wrongValueKind "field signature" declaration.signature := by
  rw [← @layOutFields_eq_error_iff 0 0 definition.fields fault, Site.run_define, build]
  cases layOutFields 0 0 definition.fields with
  | error failure =>
    constructor
    · rintro ⟨⟩
      exact ⟨rfl, rfl⟩
    · rintro ⟨rfl, ⟨⟩⟩
      rfl
  | ok fields => simp [Except.map]

theorem build_of_run_define {owner : HostClass}
    (defined : definition.define.run heap = (.ok owner, after)) :
    definition.build heap.nextIdentity = .ok owner := by
  rw [Site.run_define] at defined
  split at defined
  case h_1 => cases defined
  case h_2 built =>
    cases defined
    exact built

/-- A class whose fields all name types is defined, with the fields as they are declared. -/
theorem exists_run_define
    (named : ∀ declaration ∈ definition.fields,
      ∃ kind, NamesType declaration.signature.toList kind) :
    ∃ owner after, definition.define.run heap = (.ok owner, after) ∧
      owner.layout.fields.map HostField.declaration = definition.fields ∧
      ∀ field ∈ owner.layout.fields, NamesType field.signature.toList field.kind := by
  rcases defined : definition.define.run heap with ⟨fault | owner, after⟩
  · obtain ⟨-, declaration, first, -⟩ := run_define_eq_error_iff.1 defined
    obtain ⟨kind, names⟩ := named declaration first.mem
    exact absurd first.1 (FieldDeclaration.not_refused_of_namesType names)
  · have ⟨declarations, kinds⟩ :=
      layOutFields_declarations (layOutFields_of_build (build_of_run_define defined))
    refine ⟨owner, after, rfl, declarations, fun field declared => ?_⟩
    have listed : field.declaration ∈ definition.fields :=
      declarations ▸ List.mem_map_of_mem declared
    obtain ⟨kind, names⟩ := named field.declaration listed
    have known := FieldKind.ofSignature?_of_hasEnds names.hasEnds
    obtain rfl : field.kind = kind := Option.some.inj ((kinds field declared).symm.trans known)
    exact names

end ClassDefinition

/-- A signature is accepted for its ends. It names a type exactly if what the ends enclose is right
as well. A class is refused for its first field without such ends, and then there is no class;
where every field names a type there is one, with the kinds of those types. -/
theorem fields_accepted (signature : String) (kind : FieldKind) (definition : ClassDefinition)
    (heap : Heap) :
    (FieldKind.ofSignature? signature = some kind ↔ HasEnds signature.toList kind) ∧
    (NamesType signature.toList kind ↔
      FieldKind.ofSignature? signature = some kind ∧ Filled signature.toList) ∧
    (∀ fault after, definition.define.run heap = (.error fault, after) ↔ after = heap ∧
      ∃ declaration, FirstOf definition.fields FieldDeclaration.Refused declaration ∧
        fault = .wrongValueKind "field signature" declaration.signature) ∧
    ((∀ declaration ∈ definition.fields,
        ∃ kind, NamesType declaration.signature.toList kind) →
      ∃ owner after, definition.define.run heap = (.ok owner, after) ∧
        owner.layout.fields.map HostField.declaration = definition.fields ∧
        ∀ field ∈ owner.layout.fields, NamesType field.signature.toList field.kind) := by
  refine ⟨FieldKind.ofSignature?_eq_some_iff, ?_, fun fault after => ?_, fun named => ?_⟩
  · rw [FieldKind.ofSignature?_eq_some_iff, namesType_iff]
  · exact ClassDefinition.run_define_eq_error_iff
  · exact ClassDefinition.exists_run_define named

/-- An array of arrays of a class with brackets and letters of primitives in its name. -/
theorem fields_accepted_of_rows :
    NamesType "[[LI[J;".toList .reference ∧ FieldKind.ofSignature? "[[LI[J;" = some .reference ∧
      ∃ owner after,
        (ClassDefinition.define ⟨"demo.Rows", false, [⟨"x", "[[LI[J;", {}⟩], [], []⟩).run {} =
            (.ok owner, after) ∧
          ∀ field ∈ owner.layout.fields, NamesType field.signature.toList field.kind := by
  let definition : ClassDefinition := ⟨"demo.Rows", false, [⟨"x", "[[LI[J;", {}⟩], [], []⟩
  have names : NamesType "[[LI[J;".toList .reference :=
    ⟨⟨2, .named "I[J".toList (by decide)⟩, by simp [ElementSignature.WellFormed], by decide, rfl⟩
  obtain ⟨-, filled, -, defined⟩ := fields_accepted "[[LI[J;" .reference definition {}
  obtain ⟨owner, after, ran, -, kinds⟩ := defined fun declaration listed => by
    rw [List.mem_singleton.1 listed]
    exact ⟨_, names⟩
  exact ⟨names, (filled.1 names).1, owner, after, ran, kinds⟩

/-- Behind a bracket nothing is asked for, and a class may end more than once. -/
theorem accepted_without_type :
    (FieldKind.ofSignature? "[Q" = some .reference ∧ ¬ ∃ kind, NamesType "[Q".toList kind) ∧
    (FieldKind.ofSignature? "La;b;" = some .reference ∧
      ¬ ∃ kind, NamesType "La;b;".toList kind) ∧
    ∃ owner after,
      (ClassDefinition.define ⟨"demo.Broken", false, [⟨"x", "[Q", {}⟩], [], []⟩).run {} =
        (.ok owner, after) := by
  refine ⟨⟨by decide, ?_⟩, ⟨by decide, ?_⟩, ?_⟩
  · rintro ⟨kind, names⟩
    obtain ⟨element, named⟩ := names.filled.element ['Q'] (by decide)
    have unknown : FieldKind.ofSignature? "Q" = none := by decide
    have known : FieldKind.ofSignature? "Q" = some element :=
      FieldKind.ofSignature?_of_hasEnds named.hasEnds
    cases unknown.symm.trans known
  · rintro ⟨kind, names⟩
    exact names.filled.unended "a;b".toList (by decide) (by decide)
  · exact ⟨_, _, rfl⟩

end GuestBridge
