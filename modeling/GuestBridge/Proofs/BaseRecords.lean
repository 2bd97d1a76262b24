import GuestBridge.Proofs.MemberMeanings
import Mathlib.Control.Monad.Basic

/-!
Base members over whole runs. Objects are made, and their members read and set, in any order and
with any slots resolved. Each operation comes to one on the heap alone, so what it answers does not
depend on which slots were used before. The objects behave as records of their own: a member reads
as what was last set on it, whatever was done to other objects and members in between.
-/
namespace GuestBridge

/-- The members that hold an object and can be set. -/
inductive Link where
  | stream
  | socket
  | file
  deriving DecidableEq

namespace Link

def family : Link → BaseFamily
  | stream | socket => .descriptor
  | file => .file

def get : Link → ObjectId → Action MemberSpace Fault (Option ObjectId)
  | stream => MemberSpace.descriptorStream
  | socket => MemberSpace.descriptorSocket
  | file => MemberSpace.fileDescriptor

def set : Link → ObjectId → Option ObjectId → Action MemberSpace Fault Unit
  | stream => MemberSpace.setDescriptorStream
  | socket => MemberSpace.setDescriptorSocket
  | file => MemberSpace.setFileDescriptor

def declared : Link → HostField
  | stream => BaseFamily.streamField
  | socket => BaseFamily.socketField
  | file => BaseFamily.fileField

theorem slot_ne {link other : Link} (different : other ≠ link)
    (sameFamily : other.family = link.family) : other.declared.slot ≠ link.declared.slot := by
  revert different sameFamily
  cases link <;> cases other <;> decide

theorem family_ne_channel (link : Link) : .channel ≠ link.family := by
  cases link <;> decide

theorem family_ne_properties (link : Link) : .properties ≠ link.family := by
  cases link <;> decide

end Link

namespace BaseRecords

/-- What is made: an object of a base class by its constructor, or any other object. -/
inductive Making where
  | descriptor
  | channel (descriptor : ObjectId)
  | file
  | properties
  | iterator (source : Option ObjectId)
  | other (origin : ClassLayout) (payload : Option Payload)
  deriving DecidableEq

inductive Request where
  | make (making : Making)
  | get (link : Link) (object : ObjectId)
  | set (link : Link) (object : ObjectId) (target : Option ObjectId)
  | channelDescriptor (channel : ObjectId)
  | property (object : ObjectId) (key : String)
  | setProperty (object : ObjectId) (key value : String)
  deriving DecidableEq

inductive Answer where
  | made (object : ObjectId)
  | object (held : Option ObjectId)
  | text (value : Option String)
  | done
  deriving DecidableEq

structure Event where
  request : Request
  outcome : Except Fault Answer
  deriving DecidableEq

/-- An object by the constructor without arguments, which no base member is for. -/
def construct (family : BaseFamily) : Action MemberSpace Fault ObjectId := do
  let owner ← (← get).types.resolve family.definition.name
  match owner.findConstructor? BaseClass.emptyConstructorSignature with
  | some found => MemberSpace.onHeap (found.body owner.layout [])
  | none =>
    throw (MemberSpec.ofConstructor owner.name BaseClass.emptyConstructorSignature).notFound

def Making.perform : Making → Action MemberSpace Fault ObjectId
  | descriptor => MemberSpace.newDescriptor
  | channel opened => MemberSpace.newChannel opened
  | file => construct .file
  | properties => construct .properties
  | iterator source => MemberSpace.newEnumeratorIterator source
  | other origin payload => MemberSpace.onHeap (Heap.instantiate origin payload)

def Request.perform : Request → Action MemberSpace Fault Answer
  | make making => .made <$> making.perform
  | get link object => .object <$> link.get object
  | set link object target => (fun _ => .done) <$> link.set object target
  | channelDescriptor channel => .object <$> MemberSpace.channelDescriptor channel
  | property object key => .text <$> MemberSpace.property object key
  | setProperty object key value => .text <$> MemberSpace.setProperty object key value

/-- What was asked and answered so far, latest first, and where that has led. -/
structure Course where
  history : List Event
  space : MemberSpace

def Course.next (course : Course) (request : Request) : Course :=
  let (outcome, space) := request.perform.run course.space
  ⟨⟨request, outcome⟩ :: course.history, space⟩

def Course.after (course : Course) (requests : List Request) : Course :=
  requests.foldl Course.next course

theorem Course.history_after_concat (course : Course) (requests : List Request)
    (request : Request) :
    (course.after (requests ++ [request])).history =
      ⟨request, (request.perform.run (course.after requests).space).1⟩ ::
        (course.after requests).history := by
  rw [after, List.foldl_append]
  rfl

def Making.family? : Making → Option BaseFamily
  | descriptor => some .descriptor
  | channel _ => some .channel
  | file => some .file
  | properties => some .properties
  | iterator _ => some .iterator
  | other _ _ => none

def Made (history : List Event) (family : BaseFamily) (object : ObjectId) : Prop :=
  ∃ making, Event.mk (.make making) (.ok (.made object)) ∈ history ∧ making.family? = some family

/-- What the event sets the member of the object to, if that is what it does. -/
def Event.target? (link : Link) (object : ObjectId) : Event → Option (Option ObjectId)
  | ⟨.set other owner target, .ok _⟩ =>
    if other = link ∧ owner = object then some target else none
  | _ => none

def Event.value? (object : ObjectId) (key : String) : Event → Option String
  | ⟨.setProperty owner name value, .ok _⟩ =>
    if owner = object ∧ name = key then some value else none
  | _ => none

/-- The target that was set last, null without any. -/
def lastTarget (history : List Event) (link : Link) (object : ObjectId) : Option ObjectId :=
  (history.findSome? (Event.target? link object)).join

/-- The value that a key of the property table was given last. -/
def lastValue (history : List Event) (object : ObjectId) (key : String) : Option String :=
  history.findSome? (Event.value? object key)

/-- What the past tells of an event. -/
def Told (past : List Event) : Event → Prop
  | ⟨.make _, outcome⟩ =>
    ∃ object, outcome = .ok (.made object) ∧
      ∀ making, Event.mk (.make making) (.ok (.made object)) ∉ past
  | ⟨.get link object, outcome⟩ =>
    Made past link.family object → outcome = .ok (.object (lastTarget past link object))
  | ⟨.set link object _, outcome⟩ => Made past link.family object → outcome = .ok .done
  | ⟨.channelDescriptor channel, outcome⟩ =>
    ∀ descriptor, ⟨.make (.channel descriptor), .ok (.made channel)⟩ ∈ past →
      outcome = .ok (.object (some descriptor))
  | ⟨.property object key, outcome⟩ | ⟨.setProperty object key _, outcome⟩ =>
    Made past .properties object → outcome = .ok (.text (lastValue past object key))

open BaseClass MemberSpace

variable {types : ClassRegistry}

def Making.meaning (types : ClassRegistry) : Making → Action Heap Fault ObjectId
  | descriptor => Heap.instantiate (types.base .descriptor).layout
  | channel opened =>
    (storingConstructor channelConstructorSignature).body (types.base .channel).layout
      [.ref opened]
  | file => Heap.instantiate (types.base .file).layout
  | properties => Heap.instantiate (types.base .properties).layout (some (.properties []))
  | iterator source =>
    (storingConstructor iteratorConstructorSignature).body (types.base .iterator).layout
      [.ofObject? source]
  | other origin payload => Heap.instantiate origin payload

def field (types : ClassRegistry) (link : Link) : BoundField :=
  ⟨types.base link.family, link.declared⟩

def channelField (types : ClassRegistry) : BoundField :=
  ⟨types.base .channel, BaseFamily.channelField⟩

def Request.meaning (types : ClassRegistry) : Request → Action Heap Fault Answer
  | make making => .made <$> making.meaning types
  | get link object => .object <$> (field types link).getObject object
  | set link object target => (fun _ => .done) <$> (field types link).setObject object target
  | channelDescriptor channel => .object <$> (channelField types).getObject channel
  | property object key => .text <$> propertyOf object key
  | setProperty object key value => .text <$> setPropertyOf object key value

theorem means_construct (held : types.HoldsBase) {family : BaseFamily} {payload : Option Payload}
    (plain : ∀ identity, (family.owner identity).findConstructor? emptyConstructorSignature =
      some (plainConstructor emptyConstructorSignature payload)) :
    Means types (construct family) (Heap.instantiate (types.base family).layout payload) := by
  obtain ⟨found, identity, own⟩ := held.base_eq family
  intro table heap resolves
  refine ⟨table, ?_, resolves⟩
  have resolved : types.resolve family.definition.name = .ok (types.base family) := by
    rw [ClassRegistry.resolve, found]
  simp only [construct, Action.run_bind, Action.run_get, Action.run_liftM, resolved]
  rw [own, plain]
  rfl

theorem Making.means_perform (held : types.HoldsBase) (making : Making) :
    Means types making.perform (making.meaning types) := by
  cases making with
  | descriptor => exact .construct held .newDescriptor rfl rfl
  | channel opened => exact .construct held .newChannel rfl rfl
  | file => exact means_construct held fun _ => rfl
  | properties => exact means_construct held fun _ => rfl
  | iterator source => exact .construct held .newEnumeratorIterator rfl rfl
  | other origin payload => exact .onHeap _

theorem Request.means_perform (held : types.HoldsBase) (request : Request) :
    Means types request.perform (request.meaning types) := by
  cases request with
  | make making => exact .map (making.means_perform held) _
  | get link object =>
    cases link with
    | stream => exact .map (.getObject held .descriptorStream rfl object) _
    | socket => exact .map (.getObject held .descriptorSocket rfl object) _
    | file => exact .map (.getObject held .fileDescriptor rfl object) _
  | set link object target =>
    cases link with
    | stream => exact .map (.setObject held .descriptorStream rfl object target) _
    | socket => exact .map (.setObject held .descriptorSocket rfl object target) _
    | file => exact .map (.setObject held .fileDescriptor rfl object target) _
  | channelDescriptor channel => exact .map (.getObject held .channelDescriptor rfl channel) _
  | property object key =>
    refine .map (.bind (.onHeap _) fun key => ?_) _
    exact .callForText held .getProperty rfl rfl object rfl
  | setProperty object key value =>
    refine .map (.bind (.onHeap _) fun key => .bind (.onHeap _) fun value => ?_) _
    exact .callForText held .setProperty rfl rfl object rfl

/-- A request on the heap alone, after a history. -/
def direct (types : ClassRegistry) (before : List Event × Heap) (request : Request) :
    List Event × Heap :=
  let (outcome, after) := (request.meaning types).run before.2
  (⟨request, outcome⟩ :: before.1, after)

theorem Course.after_eq (held : types.HoldsBase) {table : AccessorTable}
    (resolves : BaseMember.table.Resolves types table) (history : List Event) (heap : Heap)
    (requests : List Request) :
    let ended := requests.foldl (direct types) (history, heap)
    ∃ reached, Course.after ⟨history, ⟨table, types, heap⟩⟩ requests =
      ⟨ended.1, ⟨reached, types, ended.2⟩⟩ := by
  induction requests generalizing history table heap with
  | nil => exact ⟨table, rfl⟩
  | cons request rest ih =>
    obtain ⟨middle, ran, more⟩ := request.means_perform held table heap resolves
    have next : Course.next ⟨history, ⟨table, types, heap⟩⟩ request =
        ⟨(direct types (history, heap) request).1,
          ⟨middle, types, (direct types (history, heap) request).2⟩⟩ := by
      rw [Course.next, ran]
      rfl
    obtain ⟨reached, ended⟩ :=
      ih more (direct types (history, heap) request).1 (direct types (history, heap) request).2
    refine ⟨reached, ?_⟩
    rw [Course.after, List.foldl_cons, next]
    exact ended

/-- The object that the event made or changed. -/
def Event.about? : Event → Option ObjectId
  | ⟨.make _, .ok (.made object)⟩ => some object
  | ⟨.set _ object _, .ok _⟩ => some object
  | ⟨.setProperty object _ _, .ok _⟩ => some object
  | _ => none

/-- An object is what the history tells of it. -/
structure Shows (types : ClassRegistry) (history : List Event) (object : ObjectId)
    (record : HostObject) : Prop where
  origin : ∀ family, Made history family object → record.origin = (types.base family).layout
  link : ∀ link, Made history link.family object →
    record.content? link.declared.slot = some (.ofObject? (lastTarget history link object))
  channel : ∀ descriptor, ⟨.make (.channel descriptor), .ok (.made object)⟩ ∈ history →
    record.content? 0 = some (.ref descriptor)
  properties : Made history .properties object → ∃ entries,
    record.payload = some (.properties entries) ∧
      ∀ key, entries.lookup key = lastValue history object key

structure Reflects (types : ClassRegistry) (history : List Event) (heap : Heap) : Prop where
  shows : ∀ object, Shows types history object (heap.object object)
  known : ∀ event ∈ history, ∀ object, event.about? = some object →
    object.index < heap.objects.size

section Histories

variable {past : List Event} {event : Event} {object : ObjectId}

theorem target?_of_about?_ne (apart : event.about? ≠ some object) (link : Link) :
    event.target? link object = none := by
  obtain ⟨request, outcome⟩ := event
  cases request with
  | set other owner target =>
    cases outcome with
    | error fault => rfl
    | ok answer =>
      have different : owner ≠ object := fun same => apart (congrArg some same)
      simp [Event.target?, different]
  | _ => rfl

theorem value?_of_about?_ne (apart : event.about? ≠ some object) (key : String) :
    event.value? object key = none := by
  obtain ⟨request, outcome⟩ := event
  cases request with
  | setProperty owner name value =>
    cases outcome with
    | error fault => rfl
    | ok answer =>
      have different : owner ≠ object := fun same => apart (congrArg some same)
      simp [Event.value?, different]
  | _ => rfl

theorem unlike_of_about?_ne (apart : event.about? ≠ some object) (making : Making) :
    event ≠ ⟨.make making, .ok (.made object)⟩ := by
  rintro rfl
  exact apart rfl

theorem mem_past {making : Making} (unlike : ∀ making, event ≠ ⟨.make making, .ok (.made object)⟩)
    (listed : ⟨.make making, .ok (.made object)⟩ ∈ event :: past) :
    ⟨.make making, .ok (.made object)⟩ ∈ past :=
  (List.mem_cons.1 listed).resolve_left (unlike making).symm

theorem Made.earlier {family : BaseFamily}
    (unlike : ∀ making, event ≠ ⟨.make making, .ok (.made object)⟩)
    (made : Made (event :: past) family object) : Made past family object := by
  obtain ⟨making, listed, ofFamily⟩ := made
  exact ⟨making, mem_past unlike listed, ofFamily⟩

theorem lastTarget_cons_of_ne {link : Link} (unset : event.target? link object = none) :
    lastTarget (event :: past) link object = lastTarget past link object := by
  rw [lastTarget, List.findSome?_cons, unset]
  rfl

theorem lastValue_cons_of_ne {key : String} (unset : event.value? object key = none) :
    lastValue (event :: past) object key = lastValue past object key := by
  rw [lastValue, List.findSome?_cons, unset]
  rfl

theorem lastTarget_set (link other : Link) (target : Option ObjectId) (answer : Answer) :
    lastTarget (⟨.set link object target, .ok answer⟩ :: past) other object =
      if other = link then target else lastTarget past other object := by
  by_cases same : other = link
  · simp [lastTarget, Event.target?, same]
  · simp [lastTarget, Event.target?, same, Ne.symm same]

theorem lastValue_setProperty (key name value : String) (answer : Answer) :
    lastValue (⟨.setProperty object key value, .ok answer⟩ :: past) object name =
      if name = key then some value else lastValue past object name := by
  by_cases same : name = key
  · simp [lastValue, Event.value?, same]
  · simp [lastValue, Event.value?, same, Ne.symm same]

/-- An event about another object tells nothing new of this one. -/
theorem Shows.cons {record : HostObject} (shows : Shows types past object record)
    (apart : event.about? ≠ some object) : Shows types (event :: past) object record := by
  have unlike := unlike_of_about?_ne apart
  refine ⟨fun family made => shows.origin family (made.earlier unlike), fun link made => ?_,
    fun descriptor listed => shows.channel descriptor (mem_past unlike listed), fun made => ?_⟩
  · rw [lastTarget_cons_of_ne (target?_of_about?_ne apart link)]
    exact shows.link link (made.earlier unlike)
  · obtain ⟨entries, carried, looked⟩ := shows.properties (made.earlier unlike)
    refine ⟨entries, carried, fun key => ?_⟩
    rw [lastValue_cons_of_ne (value?_of_about?_ne apart key)]
    exact looked key

theorem Shows.of_unmade {history : List Event}
    (unmade : ∀ making, Event.mk (.make making) (.ok (.made object)) ∉ history)
    (record : HostObject) : Shows types history object record where
  origin _ made := absurd made.choose_spec.1 (unmade _)
  link _ made := absurd made.choose_spec.1 (unmade _)
  channel _ listed := absurd listed (unmade _)
  properties made := absurd made.choose_spec.1 (unmade _)

end Histories

/-- What a new object is, by what was made. -/
structure Making.Fresh (types : ClassRegistry) (making : Making) (record : HostObject) :
    Prop where
  origin : ∀ family, making.family? = some family → record.origin = (types.base family).layout
  link : ∀ link : Link, making.family? = some link.family →
    record.content? link.declared.slot = some .null
  channel : ∀ descriptor, making = .channel descriptor →
    record.content? 0 = some (.ref descriptor)
  properties : making.family? = some .properties → record.payload = some (.properties [])

namespace Reflects

variable {past : List Event} {heap after : Heap} {object : ObjectId}

/-- The history is not about objects that the heap does not have. -/
theorem about?_ne (reflects : Reflects types past heap) {event : Event} (listed : event ∈ past)
    (new : heap.objects.size ≤ object.index) : event.about? ≠ some object :=
  fun about => Nat.not_lt.2 new (reflects.known event listed object about)

theorem unmade (reflects : Reflects types past heap) (new : heap.objects.size ≤ object.index)
    (making : Making) : Event.mk (.make making) (.ok (.made object)) ∉ past :=
  fun listed => reflects.about?_ne listed new rfl

theorem cons (reflects : Reflects types past heap) {event : Event}
    (changes : heap.ChangesAt event.about? after)
    (own : ∀ object, event.about? = some object →
      object.index < after.objects.size ∧
        Shows types (event :: past) object (after.object object)) :
    Reflects types (event :: past) after where
  shows object := by
    by_cases about : event.about? = some object
    · exact (own object about).2
    · by_cases known : object.index < heap.objects.size
      · rw [changes.object_eq object known about]
        exact (reflects.shows object).cons about
      · refine .of_unmade (fun making listed => ?_) _
        have before := mem_past (unlike_of_about?_ne about) listed
        exact reflects.unmade (Nat.not_lt.1 known) making before
  known other listed object about := by
    rcases List.mem_cons.1 listed with rfl | earlier
    · exact (own object about).1
    · exact Nat.lt_of_lt_of_le (reflects.known other earlier object about) changes.size_le

theorem cons_of_read (reflects : Reflects types past heap) {event : Event}
    (nothing : event.about? = none) (changes : heap.ChangesAt none after) :
    Reflects types (event :: past) after := by
  refine reflects.cons (nothing ▸ changes) fun object about => ?_
  rw [nothing] at about
  cases about

theorem shows_made (reflects : Reflects types past heap) {making : Making} {record : HostObject}
    (fresh : making.Fresh types record) (new : heap.objects.size ≤ object.index) :
    Shows types (⟨.make making, .ok (.made object)⟩ :: past) object record := by
  have now {other : Making}
      (listed : Event.mk (.make other) (.ok (.made object)) ∈
        ⟨.make making, .ok (.made object)⟩ :: past) : other = making := by
    rcases List.mem_cons.1 listed with same | earlier
    · cases same
      rfl
    · exact absurd earlier (reflects.unmade new other)
  refine ⟨?_, ?_, fun descriptor listed => fresh.channel descriptor (now listed).symm, ?_⟩
  · rintro family ⟨other, listed, ofFamily⟩
    obtain rfl := now listed
    exact fresh.origin family ofFamily
  · rintro link ⟨other, listed, ofFamily⟩
    obtain rfl := now listed
    -- Nothing was ever set on an identity that was not given out.
    have unset : past.findSome? (Event.target? link object) = none :=
      List.findSome?_eq_none_iff.2 fun event earlier =>
        target?_of_about?_ne (reflects.about?_ne earlier new) link
    rw [lastTarget_cons_of_ne rfl, lastTarget, unset]
    exact fresh.link link ofFamily
  · rintro ⟨other, listed, ofFamily⟩
    obtain rfl := now listed
    refine ⟨[], fresh.properties ofFamily, fun key => ?_⟩
    have unset : past.findSome? (Event.value? object key) = none :=
      List.findSome?_eq_none_iff.2 fun event earlier =>
        value?_of_about?_ne (reflects.about?_ne earlier new) key
    rw [lastValue_cons_of_ne rfl, lastValue, unset]
    rfl

end Reflects

theorem family_eq_of_layout (held : types.HoldsBase) {family other : BaseFamily}
    (same : (types.base family).layout = (types.base other).layout) : family = other := by
  obtain ⟨-, identity, own⟩ := held.base_eq family
  obtain ⟨-, otherIdentity, otherOwn⟩ := held.base_eq other
  rw [own, otherOwn] at same
  exact BaseFamily.name_injective (congrArg ClassLayout.name same)

theorem holdsObject_field (held : types.HoldsBase) (link : Link) :
    (field types link).HoldsObject := by
  obtain ⟨-, identity, own⟩ := held.base_eq link.family
  rw [field, own]
  cases link <;> exact ⟨rfl, rfl, rfl⟩

theorem holdsObject_channelField (held : types.HoldsBase) :
    (channelField types).HoldsObject := by
  obtain ⟨-, identity, own⟩ := held.base_eq .channel
  rw [channelField, own]
  exact ⟨rfl, rfl, rfl⟩

theorem Making.fresh_ofLayout (held : types.HoldsBase) {making : Making} {family : BaseFamily}
    {payload : Option Payload} (ofFamily : making.family? = some family)
    (unstored : ∀ descriptor, making ≠ .channel descriptor)
    (carried : family = .properties → payload = some (.properties [])) :
    making.Fresh types (.ofLayout (types.base family).layout payload) where
  origin other same := by
    obtain rfl : family = other := Option.some.inj (ofFamily.symm.trans same)
    rfl
  link link same := by
    obtain rfl : family = link.family := Option.some.inj (ofFamily.symm.trans same)
    exact HostObject.content?_ofLayout (holdsObject_field held link).instanceKinds_slot payload
  channel descriptor same := absurd same (unstored descriptor)
  properties same := carried (Option.some.inj (ofFamily.symm.trans same))

theorem Making.run_meaning (held : types.HoldsBase) (making : Making) (heap : Heap) :
    ∃ after, (making.meaning types).run heap = (.ok ⟨heap.objects.size⟩, after) ∧
      heap.ChangesAt none after ∧ heap.objects.size < after.objects.size ∧
      making.Fresh types (after.object ⟨heap.objects.size⟩) := by
  have instantiated {origin : ClassLayout} {payload : Option Payload}
      (fresh : making.Fresh types (.ofLayout origin payload)) :
      let after := (heap.allocate (.ofLayout origin payload)).2
      heap.ChangesAt none after ∧ heap.objects.size < after.objects.size ∧
        making.Fresh types (after.object ⟨heap.objects.size⟩) := by
    refine ⟨heap.changesAt_allocate _, by simp [Heap.allocate], ?_⟩
    rw [heap.object_allocate]
    exact fresh
  cases making with
  | descriptor =>
    refine ⟨_, rfl, instantiated (fresh_ofLayout held rfl ?_ ?_)⟩
    · rintro descriptor ⟨⟩
    · rintro ⟨⟩
  | file =>
    refine ⟨_, rfl, instantiated (fresh_ofLayout held rfl ?_ ?_)⟩
    · rintro descriptor ⟨⟩
    · rintro ⟨⟩
  | properties =>
    refine ⟨_, rfl, instantiated (fresh_ofLayout held rfl ?_ fun _ => rfl)⟩
    rintro descriptor ⟨⟩
  | other origin payload =>
    refine ⟨_, rfl, instantiated ⟨?_, ?_, ?_, ?_⟩⟩
    · rintro family ⟨⟩
    · rintro link ⟨⟩
    · rintro descriptor ⟨⟩
    · rintro ⟨⟩
  | channel opened =>
    have kind := (holdsObject_channelField held).instanceKinds_slot
    obtain ⟨after, ran, changes, room, sameOrigin, stored⟩ :=
      run_storingConstructor channelConstructorSignature kind
        (Value.fits_ofObject? (some opened)) heap
    refine ⟨after, ran, changes, room, ⟨?_, ?_, ?_, ?_⟩⟩
    · rintro family ⟨⟩
      exact sameOrigin
    · rintro (_ | _ | _) ⟨⟩
    · rintro descriptor ⟨⟩
      exact stored
    · rintro ⟨⟩
  | iterator source =>
    obtain ⟨-, identity, own⟩ := held.base_eq .iterator
    have kind : (types.base .iterator).layout.instanceKinds[0]? = some .reference := by
      rw [own]
      rfl
    obtain ⟨after, ran, changes, room, sameOrigin, -⟩ :=
      run_storingConstructor iteratorConstructorSignature kind
        (Value.fits_ofObject? source) heap
    refine ⟨after, ran, changes, room, ⟨?_, ?_, ?_, ?_⟩⟩
    · rintro family ⟨⟩
      exact sameOrigin
    · rintro (_ | _ | _) ⟨⟩
    · rintro descriptor ⟨⟩
    · rintro ⟨⟩

/-- The request is answered as the history tells, and the history tells of the heap after it. -/
def Continues (types : ClassRegistry) (past : List Event) (heap : Heap) (request : Request) :
    Prop :=
  ∃ outcome after, (request.meaning types).run heap = (outcome, after) ∧
    Told past ⟨request, outcome⟩ ∧ Reflects types (⟨request, outcome⟩ :: past) after

namespace Reflects

variable {past : List Event} {heap : Heap}

theorem make (held : types.HoldsBase) (reflects : Reflects types past heap) (making : Making) :
    Continues types past heap (.make making) := by
  obtain ⟨after, ran, changes, room, fresh⟩ := making.run_meaning held heap
  refine ⟨.ok (.made ⟨heap.objects.size⟩), after, ?_,
    ⟨_, rfl, reflects.unmade (Nat.le_refl _)⟩, reflects.cons (changes.weaken _) ?_⟩
  · rw [Request.meaning, Action.run_map, ran]
    rfl
  · rintro object ⟨⟩
    exact ⟨room, reflects.shows_made fresh (Nat.le_refl _)⟩

theorem get (held : types.HoldsBase) (reflects : Reflects types past heap) (link : Link)
    (object : ObjectId) : Continues types past heap (.get link object) := by
  have unchanged := (field types link).readsOnly_getObject object heap
  refine ⟨((field types link).getObject object).run heap |>.1.map .object, heap, ?_,
    fun made => ?_, reflects.cons_of_read rfl (.refl none heap)⟩
  · rw [Request.meaning, Action.run_map, unchanged]
  · have shows := reflects.shows object
    rw [(holdsObject_field held link).run_getObject (shows.origin _ made) (shows.link link made)]
    rfl

theorem channelDescriptor (held : types.HoldsBase) (reflects : Reflects types past heap)
    (channel : ObjectId) : Continues types past heap (.channelDescriptor channel) := by
  have unchanged := (channelField types).readsOnly_getObject channel heap
  refine ⟨((channelField types).getObject channel).run heap |>.1.map .object, heap, ?_,
    fun descriptor listed => ?_, reflects.cons_of_read rfl (.refl none heap)⟩
  · rw [Request.meaning, Action.run_map, unchanged]
  · have shows := reflects.shows channel
    have stored : (heap.object channel).content? (channelField types).field.slot =
        some (.ofObject? (some descriptor)) := shows.channel descriptor listed
    have own := shows.origin .channel ⟨_, listed, rfl⟩
    rw [(holdsObject_channelField held).run_getObject own stored]
    rfl

theorem property (reflects : Reflects types past heap) (object : ObjectId) (key : String) :
    Continues types past heap (.property object key) := by
  have changes := changesAt_propertyOf heap object key
  refine ⟨((propertyOf object key).run heap).1.map .text, ((propertyOf object key).run heap).2, ?_,
    fun made => ?_, reflects.cons_of_read rfl changes⟩
  · rw [Request.meaning, Action.run_map]
  · obtain ⟨entries, carried, looked⟩ := (reflects.shows object).properties made
    obtain ⟨after, ran, -⟩ := run_propertyOf carried key
    rw [ran, looked]
    rfl

theorem setProperty (reflects : Reflects types past heap) (object : ObjectId)
    (key value : String) : Continues types past heap (.setProperty object key value) := by
  by_cases table : ∃ entries, heap.payload? object = some (.properties entries)
  case neg =>
    obtain ⟨fault, after, ran, changes⟩ :=
      run_setPropertyOf_of_other (fun entries carried => table ⟨entries, carried⟩) key value
    refine ⟨.error fault, after, ?_, fun made => ?_, reflects.cons_of_read rfl changes⟩
    · rw [Request.meaning, Action.run_map, ran]
      rfl
    · obtain ⟨entries, carried, -⟩ := (reflects.shows object).properties made
      exact absurd ⟨entries, carried⟩ table
  case pos =>
    obtain ⟨entries, carried⟩ := table
    obtain ⟨known, after, ran, changes, record⟩ := run_setPropertyOf carried key value
    have shows := reflects.shows object
    have looked (made : Made past .properties object) (name : String) :
        entries.lookup name = lastValue past object name := by
      obtain ⟨held, same, looked⟩ := shows.properties made
      obtain rfl : entries = held := by
        have same := carried.symm.trans same
        cases same
        rfl
      exact looked name
    let outcome : Except Fault Answer := .ok (.text (entries.lookup key))
    have unlike (making : Making) : Event.mk (.setProperty object key value) outcome ≠
        ⟨.make making, .ok (.made object)⟩ := by rintro ⟨⟩
    refine ⟨outcome, after, ?_, fun made => ?_, reflects.cons changes ?_⟩
    · rw [Request.meaning, Action.run_map, ran]
      rfl
    · rw [← looked made]
    · rintro owner ⟨⟩
      refine ⟨Nat.lt_of_lt_of_le known changes.size_le, ?_⟩
      rw [record]
      refine ⟨fun family made => shows.origin family (made.earlier unlike),
        fun link made => shows.link link (made.earlier unlike),
        fun descriptor listed => shows.channel descriptor (mem_past unlike listed),
        fun made => ⟨_, rfl, fun name => ?_⟩⟩
      rw [lookup_updated, looked (made.earlier unlike), lastValue_setProperty]

theorem set (held : types.HoldsBase) (reflects : Reflects types past heap) (link : Link)
    (object : ObjectId) (target : Option ObjectId) :
    Continues types past heap (.set link object target) := by
  have shows := reflects.shows object
  have holds := holdsObject_field held link
  by_cases own : (heap.object object).origin = (field types link).declaring.layout
  case neg =>
    obtain ⟨fault, ran⟩ := holds.run_setObject_of_ne own target
    refine ⟨.error fault, heap, ?_, fun made => absurd (shows.origin _ made) own,
      reflects.cons_of_read rfl (.refl none heap)⟩
    rw [Request.meaning, Action.run_map, ran]
    rfl
  case pos =>
    obtain ⟨known, after, ran, puts⟩ := holds.run_setObject own target
    have unlike (making : Making) : Event.mk (.set link object target) (.ok .done) ≠
        ⟨.make making, .ok (.made object)⟩ := by rintro ⟨⟩
    have ofLink {family : BaseFamily} (made : Made past family object) : family = link.family :=
      family_eq_of_layout held ((shows.origin family made).symm.trans own)
    refine ⟨.ok .done, after, ?_, fun _ => rfl, reflects.cons puts.changes ?_⟩
    · rw [Request.meaning, Action.run_map, ran]
      rfl
    · rintro owner ⟨⟩
      refine ⟨Nat.lt_of_lt_of_le known puts.changes.size_le, ?_, ?_, ?_, ?_⟩
      · intro family made
        exact puts.origin_eq.trans (shows.origin family (made.earlier unlike))
      · intro other made
        rw [lastTarget_set]
        split
        case isTrue same =>
          subst same
          exact puts.content?_eq
        case isFalse different =>
          -- Of another family it cannot be, and in its own family every link has its own slot.
          have apart := Link.slot_ne different (ofLink (made.earlier unlike))
          rw [← shows.link other (made.earlier unlike)]
          exact puts.content?_of_ne _ apart
      · intro descriptor listed
        exact absurd (ofLink ⟨_, mem_past unlike listed, rfl⟩) link.family_ne_channel
      · intro made
        exact absurd (ofLink (made.earlier unlike)) link.family_ne_properties

theorem continues (held : types.HoldsBase) (reflects : Reflects types past heap)
    (request : Request) : Continues types past heap request := by
  cases request with
  | make making => exact reflects.make held making
  | get link object => exact reflects.get held link object
  | set link object target => exact reflects.set held link object target
  | channelDescriptor channel => exact reflects.channelDescriptor held channel
  | property object key => exact reflects.property object key
  | setProperty object key value => exact reflects.setProperty object key value

theorem told (held : types.HoldsBase) (reflects : Reflects types past heap)
    (before : ∀ event earlier, (event :: earlier) <:+ past → Told earlier event)
    (requests : List Request) :
    ∀ event earlier, (event :: earlier) <:+ (requests.foldl (direct types) (past, heap)).1 →
      Told earlier event := by
  -- Every request prepends one event; the suffixes behind it were told before.
  induction requests generalizing past heap with
  | nil => exact before
  | cons request rest ih =>
    obtain ⟨outcome, after, ran, told, reflectsAfter⟩ := reflects.continues held request
    have next : direct types (past, heap) request = (⟨request, outcome⟩ :: past, after) := by
      rw [direct, ran]
    rw [List.foldl_cons, next]
    refine ih reflectsAfter fun event earlier ending => ?_
    rcases List.suffix_cons_iff.1 ending with whole | within
    · cases whole
      exact told
    · exact before event earlier within

theorem nil (types : ClassRegistry) (heap : Heap) : Reflects types [] heap :=
  ⟨fun _ => .of_unmade (fun _ => List.not_mem_nil) _,
    fun _ listed => absurd listed List.not_mem_nil⟩

end Reflects

/-- Every event is what the ones before it tell, and of those only the sets of the same member of
the same object matter. Slots that are still unresolved give the same answers as resolved ones. -/
theorem told_after (held : types.HoldsBase) (heap : Heap) {table : AccessorTable}
    (resolves : BaseMember.table.Resolves types table) (requests : List Request) :
    let course := Course.after ⟨[], ⟨table, types, heap⟩⟩ requests
    (∀ event past, (event :: past) <:+ course.history → Told past event) ∧
      course.history = (Course.after ⟨[], ⟨BaseMember.table, types, heap⟩⟩ requests).history := by
  intro course
  obtain ⟨reached, ended⟩ := Course.after_eq held resolves [] heap requests
  obtain ⟨fresh, endedFresh⟩ :=
    Course.after_eq held (.refl types BaseMember.table) [] heap requests
  have history : course.history = (requests.foldl (direct types) ([], heap)).1 :=
    congrArg Course.history ended
  refine ⟨fun event past ending => ?_, history.trans (congrArg Course.history endedFresh).symm⟩
  refine (Reflects.nil types heap).told held (fun event earlier ending => ?_) requests event past
    (history ▸ ending)
  exact absurd (List.suffix_nil.1 ending) (List.cons_ne_nil event earlier)

def baseSpace : MemberSpace where
  types := ((addTo {}).run {}).1.toOption.getD {}
  heap := ((addTo {}).run {}).2

/-- A property table, and two descriptors that are the fourth and the fifth object. -/
def mixed : List Request :=
  [.make .properties, .setProperty ⟨0⟩ "user.dir" "/tmp", .make .descriptor, .make .descriptor,
    .set .stream ⟨3⟩ (some ⟨1⟩), .set .stream ⟨4⟩ (some ⟨2⟩), .set .socket ⟨3⟩ none,
    .property ⟨0⟩ "user.dir"]

theorem told_after_mixed :
    ((Request.get .stream ⟨3⟩).perform.run (Course.after ⟨[], baseSpace⟩ mixed).space).1 =
      .ok (.object (some ⟨1⟩)) := by
  have held : baseSpace.types.HoldsBase := by
    obtain ⟨types, after, ran, held⟩ := ClassRegistry.holdsBase_addTo {} {}
    have same : baseSpace.types = types := by
      rw [baseSpace, ran]
      rfl
    exact same ▸ held
  have ⟨told, _⟩ := told_after held baseSpace.heap (.refl _ BaseMember.table)
    (mixed ++ [.get .stream ⟨3⟩])
  rw [Course.history_after_concat] at told
  have answered := told _ _ (List.suffix_refl _)
  have made : Made (Course.after ⟨[], baseSpace⟩ mixed).history .descriptor ⟨3⟩ :=
    ⟨.descriptor, by decide +kernel, rfl⟩
  have last : lastTarget (Course.after ⟨[], baseSpace⟩ mixed).history .stream ⟨3⟩ = some ⟨1⟩ := by
    decide +kernel
  exact (answered made).trans (congrArg (fun held => Except.ok (Answer.object held)) last)

end BaseRecords

end GuestBridge
