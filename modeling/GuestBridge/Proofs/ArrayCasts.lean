import GuestBridge.Backend.Scripted
import GuestBridge.Native.GhostTag
import Mathlib.Control.Monad.Basic

/-!
Casts to arrays of guest types. The two native functions that test an object against such an array
read their arguments in one order, the type before the rank and the object last, and then put one
question to the store of tags. A cast that fails spells its target from the type's name and not from
its descriptor. These agree for named types only, because the name of an array is already a
descriptor.
-/
namespace GuestBridge

namespace TagStore

variable {store : TagStore} {heap : Heap} {object : ObjectId} {type : GuestType} {rank : Nat}

theorem isArrayInstance_iff :
    store.isArrayInstance heap object type rank = true ↔
      ∃ tag, store.tag? heap object = some tag ∧ tag.assignable (type.arrayOf rank) = true := by
  unfold isArrayInstance
  cases store.tag? heap object <;> simp

theorem castArray_of_instance (is : store.isArrayInstance heap object type rank = true) :
    store.castArray heap (some object) type rank = .ok () := by
  rw [castArray, if_pos is]

theorem castArray_of_other (isnot : store.isArrayInstance heap object type rank = false) :
    store.castArray heap (some object) type rank =
      .error (castFault (heap.className object) type rank) := by
  rw [castArray, if_neg (by simp [isnot])]

end TagStore

namespace Native

variable {state : Type} {session : Session state} {values : List Value} {type : GuestType}
  {rank : Nat} {object : Option ObjectId} {fault : String → Fault}

/-- The second argument is the name of a type that the bridge knows. -/
inductive Typed (session : Session state) (values : List Value) (type : GuestType) : Prop where
  | intro {value : Value} {name : String} (given : values[1]? = some value)
      (text : session.world.heap.text? value = some name)
      (known : session.bridge.guestTypes.find? (fun known => known.name == name) = some type)

inductive Ranked (values : List Value) (rank : Nat) : Prop where
  | intro {number : Int32} (given : values[2]? = some (.int number)) (positive : 0 ≤ number)
      (same : number.toInt = rank)

/-- What the arguments of a cast stand for. -/
structure Reads (session : Session state) (values : List Value) (type : GuestType) (rank : Nat)
    (object : Option ObjectId) : Prop where
  typed : Typed session values type
  ranked : Ranked values rank
  given : values[0]? = some (.ofObject? object)

/-- What is wrong with the arguments of a cast, in the order in which they are read. Only null in
place of a type is told with the name of the function. -/
inductive Misread (session : Session state) (values : List Value) : (String → Fault) → Prop where
  | typeless (missing : values[1]? = none) :
      Misread session values fun _ =>
        .wrongValueKind "argument 1" (toString values.length ++ " arguments")
  | typeNull (given : values[1]? = some .null) :
      Misread session values fun function => .nullReceiver function
  | nameless {value : Value} (given : values[1]? = some value) (present : value ≠ .null)
      (nameless : session.world.heap.text? value = none) :
      Misread session values fun _ => .wrongValueKind "java.lang.String" value.kindName
  | undefined {value : Value} {name : String} (given : values[1]? = some value)
      (text : session.world.heap.text? value = some name)
      (undefined : ∀ known ∈ session.bridge.guestTypes, known.name ≠ name) :
      Misread session values fun _ => .typeNotFound name
  | rankless {type : GuestType} (typed : Typed session values type) (missing : values[2]? = none) :
      Misread session values fun _ =>
        .wrongValueKind "argument 2" (toString values.length ++ " arguments")
  | numberless {type : GuestType} {value : Value} (typed : Typed session values type)
      (given : values[2]? = some value) (numberless : ∀ number, value ≠ .int number) :
      Misread session values fun _ => .wrongValueKind "int" value.kindName
  | negative {type : GuestType} {number : Int32} (typed : Typed session values type)
      (given : values[2]? = some (.int number)) (negative : number < 0) :
      Misread session values fun _ => .wrongValueKind "array rank" (toString number.toInt)
  | foreign {type : GuestType} {rank : Nat} {value : Value} (typed : Typed session values type)
      (ranked : Ranked values rank) (given : values[0]? = some value)
      (foreign : ∀ object, value ≠ .ofObject? object) :
      Misread session values fun _ => .wrongValueKind "reference" value.kindName

/-- The arguments as the function of that name reads them. -/
def castArguments (session : Session state) (values : List Value) (function : String) :
    Except Fault (GuestType × Nat × Option ObjectId) :=
  let arguments : Arguments := ⟨values, session.world.heap⟩
  (arguments.text 1 function).bind fun name =>
    (session.bridge.guestType name).bind fun type =>
      (arguments.rank 2).bind fun rank =>
        (arguments.object? 0).map fun object => (type, rank, object)

theorem run_reading (function : String)
    (rest : GuestType → Nat → Option ObjectId → Action (Session state) Fault Value)
    (session : Session state) :
    (do
      let arguments ← readArguments values
      let type ← typeArgument arguments 1 function
      let rank ← arguments.rank 2
      let object ← arguments.object? 0
      rest type rank object).run session =
      match castArguments session values function with
      | .error fault => (.error fault, session)
      | .ok (type, rank, object) => (rest type rank object).run session := by
  simp only [readArguments, typeArgument, castArguments, Action.run_bind, Action.run_get,
    Action.run_pure, Action.run_liftM]
  rcases Arguments.text ⟨values, session.world.heap⟩ 1 function with fault | name
  · rfl
  simp only [Except.bind]
  rcases session.bridge.guestType name with fault | type
  · rfl
  dsimp only
  rcases Arguments.rank ⟨values, session.world.heap⟩ 2 with fault | rank
  · rfl
  dsimp only
  rcases Arguments.object? ⟨values, session.world.heap⟩ 0 with fault | object <;> rfl

theorem run_isGhostArrayInstance (session : Session state) (values : List Value) :
    (isGhostArrayInstance values).run session =
      match castArguments session values "isGhostArrayInstance" with
      | .error fault => (.error fault, session)
      | .ok (type, rank, object) =>
        (.ok (.boolean (object.any fun object =>
          session.world.tags.isArrayInstance session.world.heap object type rank)), session) := by
  refine (run_reading _ _ session).trans ?_
  rcases castArguments session values "isGhostArrayInstance" with
    fault | ⟨type, rank, - | object⟩ <;> rfl

theorem run_castGhostArray (session : Session state) (values : List Value) :
    (castGhostArray values).run session =
      match castArguments session values "castGhostArray" with
      | .error fault => (.error fault, session)
      | .ok (type, rank, object) =>
        ((session.world.tags.castArray session.world.heap object type rank).map fun _ => .null,
          session) := by
  refine (run_reading _ _ session).trans ?_
  rcases castArguments session values "castGhostArray" with fault | ⟨type, rank, object⟩
  · rfl
  simp only [Action.run_bind, Action.run_get, Action.run_liftM]
  cases session.world.tags.castArray session.world.heap object type rank <;> rfl

section

variable {heap : Heap} {index : Nat} {value : Value} {name : String}

theorem value_of_missing (missing : values[index]? = none) :
    Arguments.value ⟨values, heap⟩ index = .error (.wrongValueKind ("argument " ++ toString index)
      (toString values.length ++ " arguments")) := by
  rw [Arguments.value, missing]

theorem value_of_given (given : values[index]? = some value) :
    Arguments.value ⟨values, heap⟩ index = .ok value := by
  rw [Arguments.value, given]

theorem text_of_given (given : values[index]? = some value) (text : heap.text? value = some name)
    (function : String) : Arguments.text ⟨values, heap⟩ index function = .ok name := by
  simp only [Arguments.text, value_of_given given, bind, Except.bind]
  cases value with
  | null => cases text
  | _ => simp [text, pure, Except.pure]

theorem text_of_nameless (given : values[index]? = some value) (present : value ≠ .null)
    (nameless : heap.text? value = none) (function : String) :
    Arguments.text ⟨values, heap⟩ index function =
      .error (.wrongValueKind BaseClass.stringName value.kindName) := by
  simp only [Arguments.text, value_of_given given, bind, Except.bind]
  cases value with
  | null => cases present rfl
  | _ => simp [nameless, throw, throwThe, MonadExceptOf.throw]

theorem int_of_given {number : Int32} (given : values[index]? = some (.int number)) :
    Arguments.int ⟨values, heap⟩ index = .ok number := by
  rw [Arguments.int, value_of_given given]
  rfl

theorem int_of_numberless (given : values[index]? = some value)
    (numberless : ∀ number, value ≠ .int number) :
    Arguments.int ⟨values, heap⟩ index = .error (.wrongValueKind "int" value.kindName) := by
  rw [Arguments.int, value_of_given given]
  cases value with
  | int number => exact absurd rfl (numberless number)
  | _ => rfl

end

theorem Typed.text_ok (typed : Typed session values type) (function : String) :
    ∃ name, Arguments.text ⟨values, session.world.heap⟩ 1 function = .ok name ∧
      session.bridge.guestType name = .ok type := by
  obtain @⟨value, name, given, text, known⟩ := typed
  exact ⟨name, text_of_given given text function, by rw [Bridge.guestType, known]⟩

theorem Ranked.rank_ok (ranked : Ranked values rank) (heap : Heap) :
    Arguments.rank ⟨values, heap⟩ 2 = .ok rank := by
  obtain @⟨number, given, positive, same⟩ := ranked
  simp only [Arguments.rank, int_of_given given, bind, Except.bind, if_pos positive, same]
  rfl

/-- Once the type is read, the rank comes next. -/
theorem castArguments_of_typed (typed : Typed session values type) (function : String) :
    castArguments session values function =
      (Arguments.rank ⟨values, session.world.heap⟩ 2).bind fun rank =>
        (Arguments.object? ⟨values, session.world.heap⟩ 0).map fun object =>
          (type, rank, object) := by
  obtain ⟨name, text, known⟩ := typed.text_ok function
  simp only [castArguments, text, known, Except.bind]

theorem castArguments_of_ranked (typed : Typed session values type) (ranked : Ranked values rank)
    (function : String) :
    castArguments session values function =
      (Arguments.object? ⟨values, session.world.heap⟩ 0).map fun object =>
        (type, rank, object) := by
  rw [castArguments_of_typed typed, ranked.rank_ok]
  rfl

theorem castArguments_of_reads (reads : Reads session values type rank object)
    (function : String) : castArguments session values function = .ok (type, rank, object) := by
  rw [castArguments_of_ranked reads.typed reads.ranked, Arguments.object?,
    value_of_given reads.given]
  cases object <;> rfl

theorem castArguments_of_misread (misread : Misread session values fault) (function : String) :
    castArguments session values function = .error (fault function) := by
  cases misread with
  | typeless missing =>
    rw [castArguments, Arguments.text, value_of_missing missing]
    rfl
  | typeNull given =>
    rw [castArguments, Arguments.text, value_of_given given]
    rfl
  | nameless given present nameless =>
    rw [castArguments, text_of_nameless given present nameless]
    rfl
  | @undefined value name given text undefined =>
    have unknown : session.bridge.guestTypes.find? (fun known => known.name == name) = none := by
      simpa using undefined
    simp only [castArguments, text_of_given given text, Except.bind, Bridge.guestType, unknown]
  | rankless typed missing =>
    rw [castArguments_of_typed typed, Arguments.rank, Arguments.int, value_of_missing missing]
    rfl
  | numberless typed given numberless =>
    rw [castArguments_of_typed typed, Arguments.rank, int_of_numberless given numberless]
    rfl
  | negative typed given negative =>
    have below : ¬ (0 : Int32) ≤ _ := Int32.not_le.2 negative
    simp only [castArguments_of_typed typed, Arguments.rank, int_of_given given, bind, Except.bind,
      if_neg below]
    rfl
  | @foreign type rank value typed ranked given foreign =>
    rw [castArguments_of_ranked typed ranked, Arguments.object?, value_of_given given]
    cases value with
    | null => exact absurd rfl (foreign none)
    | ref object => exact absurd rfl (foreign (some object))
    | _ => rfl

/-- No list of arguments is neither. -/
theorem misread_or_reads (session : Session state) (values : List Value) :
    (∃ fault, Misread session values fault) ∨
      ∃ type rank object, Reads session values type rank object := by
  cases typeGiven : values[1]? with
  | none => exact .inl ⟨_, .typeless typeGiven⟩
  | some typeValue =>
  by_cases typeNull : typeValue = .null
  · subst typeNull
    exact .inl ⟨_, .typeNull typeGiven⟩
  cases text : session.world.heap.text? typeValue with
  | none => exact .inl ⟨_, .nameless typeGiven typeNull text⟩
  | some name =>
  cases known : session.bridge.guestTypes.find? (fun known => known.name == name) with
  | none => exact .inl ⟨_, .undefined typeGiven text (by simpa using known)⟩
  | some type =>
  have typed : Typed session values type := .intro typeGiven text known
  cases rankGiven : values[2]? with
  | none => exact .inl ⟨_, .rankless typed rankGiven⟩
  | some rankValue =>
  by_cases numbered : ∃ number, rankValue = .int number
  case neg => exact .inl ⟨_, .numberless typed rankGiven (by simpa using numbered)⟩
  obtain ⟨number, rfl⟩ := numbered
  by_cases positive : 0 ≤ number
  case neg => exact .inl ⟨_, .negative typed rankGiven (Int32.not_le.1 positive)⟩
  have ranked : Ranked values number.toInt.toNat :=
    .intro rankGiven positive (Int.toNat_of_nonneg (Int32.le_iff_toInt_le.1 positive)).symm
  cases objectGiven : values[0]? with
  | none =>
    have empty : values = [] := by simpa using objectGiven
    simp [empty] at rankGiven
  | some value =>
  by_cases referring : ∃ object, value = .ofObject? object
  case neg => exact .inl ⟨_, .foreign typed ranked objectGiven (by simpa using referring)⟩
  obtain ⟨object, rfl⟩ := referring
  exact .inr ⟨type, _, object, typed, ranked, objectGiven⟩

/-- The two functions misread the same arguments in the same way, and give one answer to what they
read. -/
theorem casts_agree (session : Session state) (values : List Value) :
    let tested := (isGhostArrayInstance values).run session
    let cast := (castGhostArray values).run session
    tested.2 = session ∧ cast.2 = session ∧
    ((∃ fault, Misread session values fault) ∨
      ∃ type rank object, Reads session values type rank object) ∧
    (∀ fault, Misread session values fault →
      tested.1 = .error (fault "isGhostArrayInstance") ∧
        cast.1 = .error (fault "castGhostArray")) ∧
    (∀ type rank, Reads session values type rank none →
      tested.1 = .ok (.boolean false) ∧ cast.1 = .ok .null) ∧
    ∀ type rank object, Reads session values type rank (some object) →
      ∃ answer, tested.1 = .ok (.boolean answer) ∧
        (answer = true ↔
          ∃ tag, session.world.tags.tag? session.world.heap object = some tag ∧
            tag.assignable (type.arrayOf rank) = true) ∧
        (cast.1 = .ok .null ↔ answer = true) ∧
        ((∃ text, cast.1 = .error (.classCast text)) ↔ answer = false) := by
  intro tested cast
  have ranTest : tested = _ := run_isGhostArrayInstance session values
  have ranCast : cast = _ := run_castGhostArray session values
  rw [ranTest, ranCast]
  refine ⟨?_, ?_, misread_or_reads session values, fun fault misread => ?_,
    fun type rank reads => ?_, fun type rank object reads => ?_⟩
  · cases castArguments session values "isGhostArrayInstance" <;> rfl
  · cases castArguments session values "castGhostArray" <;> rfl
  · rw [castArguments_of_misread misread, castArguments_of_misread misread]
    exact ⟨rfl, rfl⟩
  · rw [castArguments_of_reads reads, castArguments_of_reads reads]
    exact ⟨rfl, rfl⟩
  · rw [castArguments_of_reads reads, castArguments_of_reads reads]
    refine ⟨_, rfl, TagStore.isArrayInstance_iff, ?_⟩
    simp only [Option.any_some]
    cases is : session.world.tags.isArrayInstance session.world.heap object type rank with
    | true => simp [TagStore.castArray_of_instance is, Except.map]
    | false =>
      simp [TagStore.castArray_of_other is, TagStore.castFault, Fault.cannotCast, Except.map]

/-- A bridge that knows one type. The first object is a string with the name of this type and the
second one carries a tag. -/
def tagging (known tag : GuestType) : Session Script where
  bridge :=
    { backend := Backend.scripted { name := "scripted" }, options := {}, pressure := ⟨0⟩
      types := {}, guestTypes := [known] }
  world :=
    { heap :=
        { objects := #[.ofLayout BaseClass.stringLayout (some (.text known.name)),
            .ofLayout ⟨4, "demo.Row", false, []⟩ none] }
      tags := { interval := TagStore.sharedInterval, entries := [(⟨1⟩, tag)] }
      backends := {} }

theorem typed_tagging (known tag : GuestType) {values : List Value}
    (named : values[1]? = some (.ref ⟨0⟩)) : Typed (tagging known tag) values known :=
  .intro named rfl (by simp [tagging])

theorem casts_agree_of_row :
    let shape := GuestType.ofGhost "demo.Shape" []
    let session := tagging shape (shape.arrayOf 1)
    let tested (object : Value) (rank : Int32) :=
      ((isGhostArrayInstance [object, .ref ⟨0⟩, .int rank]).run session).1
    let cast (object : Value) (rank : Int32) :=
      ((castGhostArray [object, .ref ⟨0⟩, .int rank]).run session).1
    cast (.ref ⟨1⟩) 1 = .ok .null ∧ (∃ text, cast (.ref ⟨1⟩) 2 = .error (.classCast text)) ∧
      cast .null 2 = .ok .null ∧
      tested .null (-1) = .error (.wrongValueKind "array rank" "-1") := by
  intro shape session tested cast
  have typed (object : Value) (rank : Int32) :
      Typed session [object, .ref ⟨0⟩, .int rank] shape :=
    typed_tagging shape (shape.arrayOf 1) rfl
  have row : Reads session [.ref ⟨1⟩, .ref ⟨0⟩, .int 1] shape 1 (some ⟨1⟩) :=
    ⟨typed .., .intro rfl (by decide) rfl, rfl⟩
  have table : Reads session [.ref ⟨1⟩, .ref ⟨0⟩, .int 2] shape 2 (some ⟨1⟩) :=
    ⟨typed .., .intro rfl (by decide) rfl, rfl⟩
  have null : Reads session [.null, .ref ⟨0⟩, .int 2] shape 2 none :=
    ⟨typed .., .intro rfl (by decide) rfl, rfl⟩
  have negative : Misread session [.null, .ref ⟨0⟩, .int (-1)] fun _ =>
      .wrongValueKind "array rank" "-1" :=
    .negative (typed ..) rfl (by decide)
  obtain ⟨-, -, -, misread, -, -⟩ := casts_agree session [.null, .ref ⟨0⟩, .int (-1)]
  obtain ⟨-, -, -, -, passed, -⟩ := casts_agree session [.null, .ref ⟨0⟩, .int 2]
  obtain ⟨-, -, -, -, -, rows⟩ := casts_agree session [.ref ⟨1⟩, .ref ⟨0⟩, .int 1]
  obtain ⟨-, -, -, -, -, tables⟩ := casts_agree session [.ref ⟨1⟩, .ref ⟨0⟩, .int 2]
  obtain ⟨is, -, isRow, rowPassed, -⟩ := rows shape 1 ⟨1⟩ row
  obtain ⟨isnot, -, isTable, -, refused⟩ := tables shape 2 ⟨1⟩ table
  have carried : is = true := isRow.2 ⟨shape.arrayOf 1, rfl, by decide +kernel⟩
  have other : isnot = false := by
    refine Bool.eq_false_iff.2 fun answered => ?_
    obtain ⟨tag, tagged, fits⟩ := isTable.1 answered
    obtain rfl : shape.arrayOf 1 = tag := Option.some.inj tagged
    have unfit : (shape.arrayOf 1).assignable (shape.arrayOf 2) = false := by decide +kernel
    rw [unfit] at fits
    cases fits
  exact ⟨rowPassed.2 carried, refused.2 other, (passed shape 2 null).2, (misread _ negative).1⟩

theorem run_throwClassCastException {object : ObjectId}
    (reads : Reads session values type rank (some object)) :
    (throwClassCastException values).run session =
      (.error (TagStore.castFault (session.world.heap.className object) type rank), session) := by
  obtain ⟨name, text, known⟩ := reads.typed.text_ok "throwClassCastException"
  have given : Arguments.object ⟨values, session.world.heap⟩ 0 "throwClassCastException" =
      .ok object := by
    rw [Arguments.object, Arguments.object?, value_of_given reads.given]
    rfl
  have ranked := reads.ranked.rank_ok session.world.heap
  simp only [throwClassCastException, readArguments, typeArgument, Action.run_bind, Action.run_get,
    Action.run_pure, Action.run_liftM, given, text, known, ranked, Action.run_throw]

end Native

namespace GuestType

theorem length_descriptor (type : GuestType) :
    type.descriptor.length = type.rank + type.baseName.length + 2 := by
  simp only [descriptor, String.length_append, String.length_ofList, List.length_replicate]
  change type.rank + 1 + type.baseName.length + 1 = _
  omega

/-- Brackets before a name make the descriptor of the array only if the name is not a descriptor
itself, which is two letters longer. -/
theorem descriptor_arrayOf_eq_iff (type : GuestType) (rank : Nat) :
    String.ofList (List.replicate rank '[') ++ "L" ++ type.name ++ ";" =
      (type.arrayOf rank).descriptor ↔ type.isArray = false := by
  constructor
  · intro same
    cases array : type.isArray with
    | false => rfl
    | true =>
    have lengths := congrArg String.length same
    rw [length_descriptor, name, if_pos array] at lengths
    simp only [String.length_append, String.length_ofList, List.length_replicate,
      length_descriptor, rank_arrayOf, baseName_arrayOf] at lengths
    change rank + 1 + (type.rank + type.baseName.length + 2) + 1 = _ at lengths
    omega
  · intro named
    have unranked : type.rank = 0 := by simpa [isArray] using named
    rw [name, if_neg (by simp [named]), descriptor, rank_arrayOf, baseName_arrayOf, unranked,
      Nat.zero_add]

end GuestType

namespace TagStore

variable {state : Type}

theorem cast_refused {store : TagStore} {heap : Heap} {object? : Option ObjectId}
    {type : GuestType} {rank : Nat} {fault : Fault}
    (failed : store.castArray heap object? type rank = .error fault) :
    ∃ object, object? = some object ∧
      fault = .classCast (heap.className object ++ " cannot be cast to " ++
        (String.ofList (List.replicate rank '[') ++ "L" ++ type.name ++ ";")) ∧
      (fault.message =
          heap.className object ++ " cannot be cast to " ++ (type.arrayOf rank).descriptor ↔
        type.isArray = false) ∧
      ∀ (session : GuestBridge.Session state) (values : List Value), session.world.heap = heap →
        Native.Reads session values type rank (some object) →
        (Native.throwClassCastException values).run session = (.error fault, session) := by
  cases object? with
  | none => cases failed
  | some object =>
  have refused : fault = castFault (heap.className object) type rank := by
    cases is : store.isArrayInstance heap object type rank with
    | true => simp [castArray_of_instance is] at failed
    | false => simpa [castArray_of_other is, eq_comm] using failed
  subst refused
  refine ⟨object, rfl, rfl, ?_, ?_⟩
  · rw [← GuestType.descriptor_arrayOf_eq_iff type rank]
    exact String.append_right_inj _
  · rintro session values rfl reads
    exact Native.run_throwClassCastException reads

theorem cast_refused_of_row :
    let shape := GuestType.ofGhost "demo.Shape" []
    let session := Native.tagging shape (shape.arrayOf 1)
    ∃ fault, session.world.tags.castArray session.world.heap (some ⟨1⟩) shape 2 = .error fault ∧
      fault.message = "demo.Row" ++ " cannot be cast to " ++ (shape.arrayOf 2).descriptor ∧
      (Native.throwClassCastException [.ref ⟨1⟩, .ref ⟨0⟩, .int 2]).run session =
        (.error fault, session) := by
  intro shape session
  have failed : session.world.tags.castArray session.world.heap (some ⟨1⟩) shape 2 =
      .error (castFault "demo.Row" shape 2) := by decide +kernel
  have reads : Native.Reads session [.ref ⟨1⟩, .ref ⟨0⟩, .int 2] shape 2 (some ⟨1⟩) :=
    ⟨Native.typed_tagging shape (shape.arrayOf 1) rfl, .intro rfl (by decide) rfl, rfl⟩
  obtain ⟨object, same, -, named, thrown⟩ := cast_refused failed
  cases same
  exact ⟨_, failed, named.2 rfl, thrown session _ rfl reads⟩

/-- The row is asked for as an array of rows, by the name that a row has as a type. -/
theorem cast_misnamed :
    let shape := GuestType.ofGhost "demo.Shape" []
    let session := Native.tagging (shape.arrayOf 1) (shape.arrayOf 1)
    let target := (shape.arrayOf 1).arrayOf 1
    session.world.tags.castArray session.world.heap (some ⟨1⟩) (shape.arrayOf 1) 1 =
        .error (.classCast "demo.Row cannot be cast to [L[Ldemo.Shape;;") ∧
      "demo.Row cannot be cast to [L[Ldemo.Shape;;" ≠
        session.world.heap.className ⟨1⟩ ++ " cannot be cast to " ++ target.descriptor ∧
      target.descriptor = "[[Ldemo.Shape;" := by
  decide +kernel

end TagStore

end GuestBridge
