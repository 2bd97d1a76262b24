import GuestBridge.Native.GhostTag
import GuestBridge.Proofs.TransferDestinations

/-!
Statuses as the guest gets them. A code stands for one status at most, and a status is read off its
own code unless it counts more than a signed number holds, when the guest is told the largest
count. The native functions that answer with a status pass on what the bridge came to in this way
and add nothing of their own but failures to read their arguments.
-/
namespace GuestBridge

namespace IoStatus

/-- The status that the guest reads off the code of a status. -/
def told : IoStatus → IoStatus
  | ok count => ok (if count ≤ largestCount then count else largestCount)
  | other => other

/-- The sign of a code is the top bit of the count. -/
theorem toInt64_nonneg_iff (count : UInt64) : 0 ≤ count.toInt64 ↔ count ≤ largestCount := by
  have sign : 0 ≤ count.toInt64.toInt ↔ 2 * count.toNat < 2 ^ 64 := BitVec.toInt_pos_iff
  have largest : largestCount.toNat = 2 ^ 63 - 1 := rfl
  rw [Int64.le_iff_toInt_le, UInt64.le_iff_toNat_le, largest]
  refine sign.trans ?_
  omega

theorem ofRaw?_toInt64 {count : UInt64} (small : count ≤ largestCount) :
    ofRaw? count.toInt64 = some (ok count) := by
  rw [ofRaw?, if_pos ((toInt64_nonneg_iff count).2 small), UInt64.toUInt64_toInt64]

theorem ofRaw?_toRaw (status : IoStatus) : ofRaw? status.toRaw = some status.told := by
  cases status with
  | ok count =>
    by_cases small : count ≤ largestCount
    · rw [toRaw, told, if_pos small]
      exact ofRaw?_toInt64 small
    · rw [toRaw, told, if_neg small]
      exact ofRaw?_toInt64 (UInt64.le_refl largestCount)
  | _ => decide

theorem toRaw_of_ofRaw? {raw : Int64} {status : IoStatus} (read : ofRaw? raw = some status) :
    status.toRaw = raw := by
  by_cases counts : 0 ≤ raw
  · rw [ofRaw?, if_pos counts] at read
    cases read
    have small : raw.toUInt64 ≤ largestCount := by
      rwa [← toInt64_nonneg_iff, Int64.toInt64_toUInt64]
    rw [toRaw, if_pos small, Int64.toInt64_toUInt64]
  · rw [ofRaw?, if_neg counts] at read
    grind [toRaw]

theorem ofRaw?_eq_none_iff (raw : Int64) : ofRaw? raw = none ↔ raw = -5 ∨ raw < -6 := by
  grind [ofRaw?]

theorem toRaw_nonneg_iff (status : IoStatus) : 0 ≤ status.toRaw ↔ status.isOk := by
  cases status with
  | ok count =>
    simp only [toRaw, toInt64_nonneg_iff, isOk, count?, Option.isSome_some, iff_true]
    split
    · assumption
    · exact UInt64.le_refl largestCount
  | _ => decide

end IoStatus

namespace Arguments

variable {values : List Value} {heap : Heap} {index : Nat}

theorem toOption_object (function : String) :
    (object ⟨values, heap⟩ index function).toOption = values[index]?.bind Value.object? := by
  unfold object object? value
  cases values[index]? with
  | none => rfl
  | some given => cases given <;> rfl

theorem toOption_long : (long ⟨values, heap⟩ index).toOption = values[index]?.bind Value.long? := by
  unfold long value
  cases values[index]? with
  | none => rfl
  | some given => cases given <;> rfl

end Arguments

/-- The native functions that answer with the code of a status. -/
inductive StatusFunction where
  | position
  | transfer

namespace StatusFunction

variable {state : Type}

def name : StatusFunction → String
  | position => "sun.nio.ch.FileChannelImpl.position0"
  | transfer => "sun.nio.ch.FileChannelImpl.transferTo0"

/-- What the arguments ask of the bridge. The receiver, which comes first, is not looked at. -/
def operation? (values : List Value) :
    StatusFunction → Option (Action (Session state) Fault IoStatus)
  | position => do
    let descriptor ← values[1]?.bind Value.object?
    let offset ← values[2]?.bind Value.long?
    return Bridge.position descriptor offset
  | transfer => do
    let source ← values[1]?.bind Value.object?
    let position ← values[2]?.bind Value.long?
    let count ← values[3]?.bind Value.long?
    let destination ← values[4]?.bind Value.object?
    return Bridge.transfer source position count destination

/-- The call runs the operation and answers with the code of its status; without an operation it
fails and has done nothing. -/
def Serves (before : Session state) (call : Action (Session state) Fault Value) :
    Option (Action (Session state) Fault IoStatus) → Prop
  | none => call.Stops before
  | some operation =>
    call.run before = ((fun status => Value.long status.toRaw) <$> operation).run before

theorem serves_operation (before : Session state)
    (operation : Action (Session state) Fault IoStatus) :
    Serves before (do return .long (← operation).toRaw) (some operation) := by
  rw [Serves, Action.run_map, Action.run_bind]
  rcases operation.run before with ⟨fault | status, after⟩ <;> rfl

theorem Serves.of_run {before : Session state} {call other : Action (Session state) Fault Value}
    {operation? : Option (Action (Session state) Fault IoStatus)}
    (same : call.run before = other.run before) (served : Serves before other operation?) :
    Serves before call operation? := by
  cases operation? with
  | none =>
    obtain ⟨fault, failed⟩ := served
    exact ⟨fault, same.trans failed⟩
  | some operation => exact same.trans served

/-- One more argument is read before the rest. -/
theorem Serves.read {value : Type} {before : Session state} {argument : Except Fault value}
    {rest : value → Action (Session state) Fault Value}
    {rest? : value → Option (Action (Session state) Fault IoStatus)}
    (late : ∀ given, Serves before (rest given) (rest? given)) :
    Serves before ((liftM argument : Action (Session state) Fault value) >>= rest)
      (argument.toOption.bind rest?) := by
  cases argument with
  | error fault => exact ⟨fault, rfl⟩
  | ok given =>
    refine .of_run ?_ (late given)
    rw [Action.run_bind, Action.run_liftM]

section

variable {before : Session state} {values : List Value} {heap : Heap} {index : Nat}

theorem Serves.readArguments {body : Arguments → Action (Session state) Fault Value}
    {operation? : Option (Action (Session state) Fault IoStatus)}
    (late : Serves before (body ⟨values, before.world.heap⟩) operation?) :
    Serves before (Native.readArguments values >>= body) operation? := by
  refine .of_run ?_ late
  rw [Action.run_bind]
  rfl

theorem Serves.object {function : String} {rest : ObjectId → Action (Session state) Fault Value}
    {rest? : ObjectId → Option (Action (Session state) Fault IoStatus)}
    (late : ∀ object, Serves before (rest object) (rest? object)) :
    Serves before (liftM (Arguments.object ⟨values, heap⟩ index function) >>= rest)
      ((values[index]?.bind Value.object?).bind rest?) := by
  rw [← Arguments.toOption_object]
  exact .read late

theorem Serves.long {rest : Int64 → Action (Session state) Fault Value}
    {rest? : Int64 → Option (Action (Session state) Fault IoStatus)}
    (late : ∀ number, Serves before (rest number) (rest? number)) :
    Serves before (liftM (Arguments.long ⟨values, heap⟩ index) >>= rest)
      ((values[index]?.bind Value.long?).bind rest?) := by
  rw [← Arguments.toOption_long]
  exact .read late

end

theorem serves_position (before : Session state) (values : List Value) :
    Serves before (Native.position values) (position.operation? values) := by
  rw [operation?]
  refine .readArguments (.object fun descriptor => .long fun offset => ?_)
  exact serves_operation before (Bridge.position descriptor offset)

theorem serves_transfer (before : Session state) (values : List Value) :
    Serves before (Native.transfer values) (transfer.operation? values) := by
  rw [operation?]
  refine .readArguments (.object fun source => .long fun position => .long fun count => ?_)
  refine .object fun destination => ?_
  exact serves_operation before (Bridge.transfer source position count destination)

theorem exists_handler (function : StatusFunction) :
    ∃ handler : NativeHandler state, Native.standard.handler? function.name = some handler ∧
      ∀ before values, Serves before (handler values) (function.operation? values) := by
  cases function with
  | position => exact ⟨Native.position, rfl, serves_position⟩
  | transfer => exact ⟨Native.transfer, rfl, serves_transfer⟩

/-- A call answers exactly when its arguments can be read and the operation comes to a status, and
it answers with the code of that status. -/
theorem Serves.answers_iff {before after : Session state}
    {call : Action (Session state) Fault Value} {answer : Value}
    {operation? : Option (Action (Session state) Fault IoStatus)}
    (serves : Serves before call operation?) :
    call.run before = (.ok answer, after) ↔
      ∃ operation status, operation? = some operation ∧
        operation.run before = (.ok status, after) ∧ answer = .long status.toRaw := by
  cases operation? with
  | none =>
    obtain ⟨fault, failed⟩ := serves
    simp [failed]
  | some operation =>
    have same : call.run before = _ := serves
    rw [same, Action.run_map]
    constructor
    · intro answered
      rcases ran : operation.run before with ⟨fault | status, later⟩ <;> rw [ran] at answered <;>
        cases answered
      exact ⟨operation, status, rfl, ran, rfl⟩
    · rintro ⟨_, status, ⟨⟩, ran, rfl⟩
      rw [ran]
      rfl

/-- A status goes to the guest as a code that it can be read off, all but counts beyond the signed
range, and the codes in use are those of the statuses: −5 is none, nor is anything below −6. The
natives that answer with a status answer with the code of the one that the bridge came to. -/
theorem statuses_told :
    (∀ status : IoStatus, IoStatus.ofRaw? status.toRaw = some status.told) ∧
    (∀ raw status, IoStatus.ofRaw? raw = some status → status.toRaw = raw) ∧
    (∀ raw, IoStatus.ofRaw? raw = none ↔ raw = -5 ∨ raw < -6) ∧
    (∀ status : IoStatus, 0 ≤ status.toRaw ↔ status.isOk) ∧
    ∀ (state : Type) (function : StatusFunction), ∃ handler : NativeHandler state,
      Native.standard.handler? function.name = some handler ∧
      ∀ (before : Session state) (values : List Value) (answer : Value) (after : Session state),
        (handler values).run before = (.ok answer, after) ↔
          ∃ operation status raw, function.operation? values = some operation ∧
            operation.run before = (.ok status, after) ∧ answer = .long raw ∧
            raw = status.toRaw ∧ IoStatus.ofRaw? raw = some status.told := by
  refine ⟨IoStatus.ofRaw?_toRaw, fun raw status => IoStatus.toRaw_of_ofRaw?,
    IoStatus.ofRaw?_eq_none_iff, IoStatus.toRaw_nonneg_iff, fun state function => ?_⟩
  obtain ⟨handler, known, serves⟩ := exists_handler function
  refine ⟨handler, known, fun before values answer after => ?_⟩
  rw [(serves before values).answers_iff]
  constructor
  · rintro ⟨operation, status, asked, ran, rfl⟩
    exact ⟨operation, status, _, asked, ran, rfl, rfl, status.ofRaw?_toRaw⟩
  · rintro ⟨operation, status, _, asked, ran, rfl, rfl, -⟩
    exact ⟨operation, status, asked, ran, rfl⟩

/-- A backend that claims to have moved more bytes than the guest's number can say. -/
def boasting : Session (Recording Script) :=
  let session := Session.towards (BaseClass.wrapSocket ⟨0⟩) (BaseClass.wrapStream ⟨1⟩)
  { session with
    world.backends.own := { transferAnswers := [.ok (.ok 0xffffffffffffffff)] } }

theorem statuses_told_of_boasting :
    IoStatus.ofRaw? (-6) = some .unsupportedCase ∧ IoStatus.unsupportedCase.toRaw = -6 ∧
    ∃ handler : NativeHandler (Recording Script),
      Native.standard.handler? "sun.nio.ch.FileChannelImpl.transferTo0" = some handler ∧
      ((Bridge.transfer ⟨1⟩ 0 3 ⟨4⟩).run boasting).1 = .ok (.ok 0xffffffffffffffff) ∧
      ((handler [.null, .ref ⟨1⟩, .long 0, .long 3, .ref ⟨4⟩]).run boasting).1 =
        .ok (.long 0x7fffffffffffffff) ∧
      IoStatus.ofRaw? 0x7fffffffffffffff = some (.ok 0x7fffffffffffffff) := by
  obtain ⟨decoded, encoded, -, -, natives⟩ := statuses_told
  have read : IoStatus.ofRaw? (-6) = some .unsupportedCase := rfl
  obtain ⟨handler, known, answers⟩ := natives (Recording Script) transfer
  have boasted : ((Bridge.transfer ⟨1⟩ 0 3 ⟨4⟩).run boasting).1 =
      .ok (.ok 0xffffffffffffffff) := by
    decide +kernel
  have told := decoded (.ok 0xffffffffffffffff)
  have answered := (answers boasting [.null, .ref ⟨1⟩, .long 0, .long 3, .ref ⟨4⟩]
    (.long 0x7fffffffffffffff) _).2
    ⟨Bridge.transfer ⟨1⟩ 0 3 ⟨4⟩, _, _, rfl, Prod.ext boasted rfl, rfl, rfl, told⟩
  exact ⟨read, encoded _ _ read, handler, known, boasted, congrArg Prod.fst answered, told⟩

end StatusFunction

end GuestBridge
