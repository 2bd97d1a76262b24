import GuestBridge.Heap.Reclaim
import GuestBridge.TagStore
import Mathlib.Data.Set.Card

/-!
A tag store under any order of tagging, asking, sweeping, creating and losing objects. It behaves as
a map from the objects that are still held to the tags they were last given. Entries of departed
objects stay until the next sweep, whether it is asked for or happens while tagging, and never
answer for another object.
-/
namespace GuestBridge

/-- The later heap has lost objects and gained new ones; none that departed is held again. -/
def Heap.Ages (before after : Heap) : Prop :=
  before.objects.size ≤ after.objects.size ∧
    ∀ object, after.isHeld object → object.index < before.objects.size → before.isHeld object

namespace Heap

theorem isHeld_iff {heap : Heap} {object : ObjectId} :
    heap.isHeld object = true ↔
      ∃ record, heap.objects[object.index]? = some record ∧ record.departed = false := by
  unfold isHeld
  cases heap.objects[object.index]? <;> simp

theorem index_lt_of_isHeld {heap : Heap} {object : ObjectId} (held : heap.isHeld object) :
    object.index < heap.objects.size := by
  obtain ⟨record, present, -⟩ := isHeld_iff.1 held
  exact (Array.getElem?_eq_some_iff.1 present).1

theorem Ages.refl (heap : Heap) : heap.Ages heap := ⟨Nat.le_refl _, fun _ held _ => held⟩

theorem Ages.trans {first second third : Heap} (early : first.Ages second)
    (late : second.Ages third) : first.Ages third :=
  ⟨Nat.le_trans early.1 late.1, fun object held known =>
    early.2 object (late.2 object held (Nat.lt_of_lt_of_le known early.1)) known⟩

theorem ages_allocate (heap : Heap) (record : HostObject) :
    heap.Ages (heap.allocate record).2 := by
  refine ⟨by simp [allocate], fun object held known => ?_⟩
  have sameRecord : (heap.allocate record).2.objects[object.index]? =
      heap.objects[object.index]? := by
    simp [allocate, Array.getElem?_push, Nat.ne_of_lt known]
  rwa [isHeld_iff, sameRecord, ← isHeld_iff] at held

theorem ages_release (heap : Heap) (object : ObjectId) : heap.Ages (heap.release object) := by
  refine ⟨by simp [release, modifyObject], fun other held _ => ?_⟩
  rw [isHeld_iff] at held ⊢
  simp only [release, modifyObject, Array.getElem?_modify] at held
  split at held
  · obtain ⟨record, present, kept⟩ := held
    obtain ⟨original, -, rfl⟩ := Option.map_eq_some_iff.1 present
    simp at kept
  · exact held

theorem ages_reclaimOnce (heap : Heap) (roots : Roots) : heap.Ages (heap.reclaimOnce roots) := by
  refine ⟨by simp [reclaimOnce, dropClasses], fun object held _ => ?_⟩
  rw [isHeld_iff] at held ⊢
  obtain ⟨record, present, kept⟩ := held
  simp only [reclaimOnce, dropClasses, Array.getElem?_mapIdx, Option.map_eq_some_iff] at present
  obtain ⟨original, there, rfl⟩ := present
  simp only [Bool.or_eq_false_iff] at kept
  exact ⟨original, there, kept.1⟩

private theorem ages_reclaim_go (roots : Roots) (fuel : Nat) (heap : Heap) :
    heap.Ages (reclaim.go roots fuel heap) := by
  induction fuel generalizing heap with
  | zero => exact Ages.refl heap
  | succ fuel ih =>
    have once := ages_reclaimOnce heap roots
    simp only [reclaim.go]
    split
    · exact once
    · exact once.trans (ih _)

theorem ages_reclaim (heap : Heap) (roots : Roots) : heap.Ages (heap.reclaim roots) :=
  ages_reclaim_go roots heap.objects.size heap

end Heap

namespace TagStore

/-- What can be asked of a store and of the heap whose objects it tags. -/
inductive Request where
  | create (origin : ClassLayout) (payload : Option Payload)
  | release (object : ObjectId)
  | reclaim (roots : Heap.Roots)
  | setTag (object : ObjectId) (tag : GuestType)
  | getTag (object : ObjectId)
  | isArrayInstance (object : ObjectId) (type : GuestType) (rank : Nat)
  | purge
  | size
  | liveSize

inductive Answer where
  | done
  | created (object : ObjectId)
  | tag (tag : Option GuestType)
  | verdict (holds : Bool)
  | count (number : Nat)

structure Session where
  heap : Heap
  store : TagStore

namespace Session

def fresh (heap : Heap) (interval : Nat) : Session := ⟨heap, { interval }⟩

def respond (session : Session) : Request → Answer × Session
  | .create origin payload =>
    let (object, heap) := session.heap.allocate (.ofLayout origin payload)
    (.created object, { session with heap })
  | .release object => (.done, { session with heap := session.heap.release object })
  | .reclaim roots => (.done, { session with heap := session.heap.reclaim roots })
  | .setTag object tag =>
    (.done, { session with store := session.store.setTag session.heap object tag })
  | .getTag object => (.tag (session.store.tag? session.heap object), session)
  | .isArrayInstance object type rank =>
    (.verdict (session.store.isArrayInstance session.heap object type rank), session)
  | .purge =>
    let (removed, store) := session.store.purge session.heap
    (.count removed, { session with store })
  | .size => (.count session.store.size, session)
  | .liveSize => (.count (session.store.liveSize session.heap), session)

def after (session : Session) (requests : List Request) : Session :=
  requests.foldl (fun before request => (before.respond request).2) session

end Session

namespace Request

/-- The object whose holder makes the request. -/
def subject? : Request → Option ObjectId
  | release object | setTag object _ | getTag object | isArrayInstance object .. => some object
  | _ => none

def tagOf? (object : ObjectId) : Request → Option GuestType
  | setTag other tag => if other = object then some tag else none
  | _ => none

def isTagging : Request → Bool
  | setTag .. => true
  | _ => false

end Request

/-- Every request that names an object comes from somebody who still holds it. -/
def Session.Admits (session : Session) : List Request → Prop
  | [] => True
  | request :: rest =>
    (∀ object ∈ request.subject?, session.heap.isHeld object) ∧
      (session.respond request).2.Admits rest

instance Session.decidableAdmits :
    (session : Session) → (requests : List Request) → Decidable (session.Admits requests)
  | _, [] => isTrue trivial
  | session, request :: rest =>
    have := decidableAdmits (session.respond request).2 rest
    inferInstanceAs (Decidable (_ ∧ _))

/-- The tag last set on the object, whatever became of it since. -/
def lastTag? (object : ObjectId) (history : List Request) : Option GuestType :=
  history.reverse.findSome? (Request.tagOf? object)

def taggings (history : List Request) : Nat := history.countP Request.isTagging

/-- Whether a request made after this history sweeps the store. -/
def Sweeps (interval : Nat) (history : List Request) : Request → Prop
  | .purge => True
  | .setTag .. => interval ≠ 0 ∧ interval ∣ taggings history + 1
  | _ => False

def Quiet (interval : Nat) (earlier later : List Request) : Prop :=
  ∀ front request back, later = front ++ request :: back →
    ¬ Sweeps interval (earlier ++ front) request

def Session.LiveTagged (start : Session) (history : List Request) (object : ObjectId) : Prop :=
  (start.after history).heap.isHeld object ∧ (lastTag? object history).isSome

/-- Objects that were tagged and then departed, with no sweep since they were last held. -/
def Session.Awaits (start : Session) (history : List Request) (object : ObjectId) : Prop :=
  (start.after history).heap.isHeld object = false ∧
    ∃ earlier later, history = earlier ++ later ∧ start.LiveTagged earlier object ∧
      Quiet start.store.interval earlier later

/-- The entries stand in the order of their objects, so no object has two. -/
def Descending (entries : List (ObjectId × GuestType)) : Prop :=
  entries.Pairwise fun newer older => older.1.index < newer.1.index

theorem Descending.nodup {entries : List (ObjectId × GuestType)} (sorted : Descending entries) :
    (entries.map Prod.fst).Nodup := by
  rw [List.Nodup, List.pairwise_map]
  refine sorted.imp fun below same => ?_
  exact absurd (congrArg ObjectId.index same) (Nat.ne_of_gt below)

theorem mem_insertEntry {object : ObjectId} {tag : GuestType}
    {entries : List (ObjectId × GuestType)} (sorted : Descending entries)
    {entry : ObjectId × GuestType} :
    entry ∈ insertEntry object tag entries ↔
      entry = (object, tag) ∨ entry ∈ entries ∧ entry.1 ≠ object := by
  induction entries with
  | nil => simp [insertEntry]
  | cons head rest ih =>
    obtain ⟨below, sortedRest⟩ := List.pairwise_cons.1 sorted
    simp only [insertEntry]
    split
    case isTrue newer =>
      have others : ∀ other ∈ head :: rest, other.1 ≠ object := by
        rintro other member rfl
        rcases List.mem_cons.1 member with rfl | inside
        · exact Nat.lt_irrefl _ newer
        · exact Nat.lt_asymm newer (below other inside)
      rw [List.mem_cons]
      exact or_congr_right ⟨fun member => ⟨member, others entry member⟩, And.left⟩
    case isFalse notNewer =>
      split
      case isTrue same =>
        have others : ∀ other ∈ rest, other.1 ≠ object := fun other inside equal =>
          Nat.ne_of_lt (below other inside) (by rw [equal, same])
        rw [List.mem_cons, List.mem_cons]
        grind
      case isFalse different =>
        rw [List.mem_cons, ih sortedRest, List.mem_cons]
        grind

theorem descending_insertEntry {object : ObjectId} {tag : GuestType}
    {entries : List (ObjectId × GuestType)} (sorted : Descending entries) :
    Descending (insertEntry object tag entries) := by
  induction entries with
  | nil => exact List.pairwise_singleton _ _
  | cons head rest ih =>
    obtain ⟨below, sortedRest⟩ := List.pairwise_cons.1 sorted
    simp only [insertEntry]
    split
    case isTrue newer =>
      refine List.pairwise_cons.2 ⟨fun other member => ?_, sorted⟩
      rcases List.mem_cons.1 member with rfl | inside
      · exact newer
      · exact Nat.lt_trans (below other inside) newer
    case isFalse notNewer =>
      split
      case isTrue same =>
        exact List.pairwise_cons.2 ⟨fun other inside => same ▸ below other inside, sortedRest⟩
      case isFalse different =>
        refine List.pairwise_cons.2 ⟨fun other member => ?_, ih sortedRest⟩
        rcases (mem_insertEntry sortedRest).1 member with rfl | ⟨inside, -⟩
        · have : object.index ≠ head.1.index := fun equal => different (by
            obtain ⟨⟨index⟩, type⟩ := head
            cases object
            exact congrArg ObjectId.mk equal.symm)
          change object.index < head.1.index
          omega
        · exact below other inside

theorem lookup_eq_of_mem {entries : List (ObjectId × GuestType)} (sorted : Descending entries)
    {object : ObjectId} {tag : GuestType} (member : (object, tag) ∈ entries) :
    entries.lookup object = some tag := by
  obtain ⟨newer, older, rfl⟩ := List.append_of_mem member
  refine List.lookup_eq_some_iff.2 ⟨newer, older, rfl, fun entry inside => ?_⟩
  have below := (List.pairwise_append.1 sorted).2.2 entry inside (object, tag) (by simp)
  simp only [bne_iff_ne, ne_eq]
  rintro rfl
  exact Nat.lt_irrefl _ below

@[simp] theorem Session.after_nil (start : Session) : start.after [] = start := rfl

theorem Session.after_snoc (start : Session) (history : List Request) (request : Request) :
    start.after (history ++ [request]) = ((start.after history).respond request).2 := by
  simp [after]

theorem Session.admits_snoc {start : Session} {history : List Request} {request : Request} :
    start.Admits (history ++ [request]) ↔ start.Admits history ∧
      ∀ object ∈ request.subject?, (start.after history).heap.isHeld object := by
  induction history generalizing start with
  | nil => simp [Admits]
  | cons first rest ih => simp [Admits, ih, after, and_assoc]

theorem lastTag?_snoc (object : ObjectId) (history : List Request) (request : Request) :
    lastTag? object (history ++ [request]) =
      (request.tagOf? object).or (lastTag? object history) := by
  simp only [lastTag?, List.reverse_append, List.reverse_singleton, List.singleton_append,
    List.findSome?_cons]
  cases request.tagOf? object <;> rfl

theorem taggings_snoc (history : List Request) (request : Request) :
    taggings (history ++ [request]) = taggings history + if request.isTagging then 1 else 0 := by
  simp [taggings, List.countP_cons]

theorem lastTag?_append_isSome {object : ObjectId} {earlier : List Request}
    (tagged : (lastTag? object earlier).isSome) (later : List Request) :
    (lastTag? object (earlier ++ later)).isSome := by
  induction later using List.reverseRecOn with
  | nil => simpa using tagged
  | append_singleton later request ih =>
    rw [← List.append_assoc, lastTag?_snoc]
    simp [ih]

theorem quiet_snoc {interval : Nat} {earlier later : List Request} {request : Request} :
    Quiet interval earlier (later ++ [request]) ↔
      Quiet interval earlier later ∧ ¬ Sweeps interval (earlier ++ later) request := by
  constructor
  · intro quiet
    refine ⟨fun front swept back split => ?_, quiet later request [] (by simp)⟩
    exact quiet front swept (back ++ [request]) (by simp [split])
  · rintro ⟨quiet, last⟩ front swept back split
    rcases List.eq_nil_or_concat back with rfl | ⟨inner, final, rfl⟩
    · obtain ⟨rfl, same⟩ := List.append_inj' split rfl
      cases same
      exact last
    · have split' : later ++ [request] = (front ++ swept :: inner) ++ [final] := by
        simpa using split
      exact quiet front swept inner (List.append_inj' split' rfl).1

/-- An object awaits its sweep after a request if it did before, or departed just now, unless the
request swept the store. -/
theorem awaits_snoc {start : Session} {history : List Request} {request : Request}
    {object : ObjectId} :
    start.Awaits (history ++ [request]) object ↔
      ¬ Sweeps start.store.interval history request ∧
        (start.after (history ++ [request])).heap.isHeld object = false ∧
          (start.LiveTagged history object ∨ start.Awaits history object) := by
  constructor
  · rintro ⟨departed, earlier, later, split, ⟨held, tagged⟩, quiet⟩
    rcases List.eq_nil_or_concat later with rfl | ⟨inner, final, rfl⟩
    · rw [List.append_nil] at split
      rw [← split, departed] at held
      simp at held
    · have split' : history ++ [request] = (earlier ++ inner) ++ [final] := by simpa using split
      obtain ⟨rfl, same⟩ := List.append_inj' split' rfl
      cases same
      obtain ⟨quietBefore, notSwept⟩ := quiet_snoc.1 (by simpa using quiet)
      refine ⟨notSwept, departed, ?_⟩
      by_cases heldNow : (start.after (earlier ++ inner)).heap.isHeld object
      · exact .inl ⟨heldNow, lastTag?_append_isSome tagged inner⟩
      · exact .inr ⟨by simpa using heldNow, earlier, inner, rfl, ⟨held, tagged⟩, quietBefore⟩
  · rintro ⟨notSwept, departed, live | ⟨_, earlier, later, rfl, live, quiet⟩⟩
    · have quiet : Quiet start.store.interval history ([] ++ [request]) :=
        quiet_snoc.2 ⟨fun front swept back split => by simp at split, by simpa using notSwept⟩
      exact ⟨departed, history, [request], rfl, live, quiet⟩
    · exact ⟨departed, earlier, later ++ [request], by simp, live, quiet_snoc.2 ⟨quiet, notSwept⟩⟩

/-- The entries are those of the live tagged objects and of the departed ones that await a sweep,
each with the tag it was last given. -/
structure Session.Represents (start : Session) (history : List Request) : Prop where
  sorted : Descending (start.after history).store.entries
  object_mem_iff : ∀ object, object ∈ (start.after history).store.entries.map Prod.fst ↔
    start.LiveTagged history object ∨ start.Awaits history object
  tag_of_mem : ∀ entry ∈ (start.after history).store.entries,
    lastTag? entry.1 history = some entry.2
  known : ∀ object, (lastTag? object history).isSome →
    object.index < (start.after history).heap.objects.size
  interval_eq : (start.after history).store.interval = start.store.interval
  insertions_eq : (start.after history).store.insertions = taggings history

namespace Session

variable {start : Session} {history : List Request} {request : Request}

theorem represents_nil (heap : Heap) (interval : Nat) : (fresh heap interval).Represents [] where
  sorted := List.Pairwise.nil
  object_mem_iff object := by
    simp only [after_nil, fresh, List.map_nil, List.not_mem_nil, false_iff, not_or]
    refine ⟨fun live => by simpa [lastTag?] using live.2, ?_⟩
    rintro ⟨-, earlier, later, split, live, -⟩
    obtain ⟨rfl, -⟩ := List.append_eq_nil_iff.1 split.symm
    simpa [lastTag?] using live.2
  tag_of_mem entry member := by simp [fresh] at member
  known object tagged := by simp [lastTag?] at tagged
  interval_eq := rfl
  insertions_eq := rfl

theorem ages_respond (session : Session) (request : Request) :
    session.heap.Ages (session.respond request).2.heap := by
  cases request with
  | create origin payload => exact Heap.ages_allocate ..
  | release object => exact Heap.ages_release ..
  | reclaim roots => exact Heap.ages_reclaim ..
  | setTag | getTag | isArrayInstance | purge | size | liveSize => exact Heap.Ages.refl _

theorem Represents.held_before (before : start.Represents history) {object : ObjectId}
    (tagged : (lastTag? object history).isSome)
    (held : (start.after (history ++ [request])).heap.isHeld object) :
    (start.after history).heap.isHeld object := by
  rw [after_snoc] at held
  exact (ages_respond _ request).2 object held (before.known object tagged)

/-- Requests that leave the store alone only let objects depart. -/
theorem Represents.kept (before : start.Represents history)
    (sameStore : ((start.after history).respond request).2.store = (start.after history).store)
    (untagged : ∀ object, request.tagOf? object = none) (uncounted : request.isTagging = false)
    (quiet : ¬ Sweeps start.store.interval history request) :
    start.Represents (history ++ [request]) := by
  have sameTag (object : ObjectId) : lastTag? object (history ++ [request]) =
      lastTag? object history := by
    simp [lastTag?_snoc, untagged]
  have store := sameStore
  rw [← after_snoc] at store
  refine ⟨store ▸ before.sorted, fun object => ?_, fun entry member => ?_, fun object tagged => ?_,
    store ▸ before.interval_eq, ?_⟩
  · rw [store, before.object_mem_iff, awaits_snoc]
    unfold LiveTagged
    rw [sameTag]
    cases heldAfter : (start.after (history ++ [request])).heap.isHeld object with
    | false => simp [quiet]
    | true =>
      have heldBefore (tagged : (lastTag? object history).isSome) :=
        before.held_before tagged heldAfter
      have notAwaiting : ¬ start.Awaits history object := by
        rintro ⟨departed, earlier, later, rfl, live, -⟩
        simp [heldBefore (lastTag?_append_isSome live.2 later)] at departed
      simpa [notAwaiting] using heldBefore
  · rw [sameTag]
    exact before.tag_of_mem entry (store ▸ member)
  · rw [after_snoc]
    rw [sameTag] at tagged
    exact Nat.lt_of_lt_of_le (before.known object tagged) (ages_respond _ request).1
  · rw [store, before.insertions_eq, taggings_snoc, uncounted]
    rfl

end Session

theorem object_mem_filter {heap : Heap} {entries : List (ObjectId × GuestType)}
    {object : ObjectId} :
    object ∈ (entries.filter fun entry => heap.isHeld entry.1).map Prod.fst ↔
      heap.isHeld object ∧ object ∈ entries.map Prod.fst := by
  simp only [List.mem_map, List.mem_filter]
  grind

theorem object_mem_insertEntry {object other : ObjectId} {tag : GuestType}
    {entries : List (ObjectId × GuestType)} (sorted : Descending entries) :
    other ∈ (insertEntry object tag entries).map Prod.fst ↔
      object = other ∨ other ∈ entries.map Prod.fst := by
  simp only [List.mem_map, mem_insertEntry sorted]
  grind

theorem setTag_of_due {store : TagStore} {heap : Heap} {object : ObjectId} {tag : GuestType}
    (due : store.interval ≠ 0 ∧ store.interval ∣ store.insertions + 1) :
    store.setTag heap object tag = (store.insert object tag).sweep heap :=
  if_pos ⟨due.1, Nat.mod_eq_zero_of_dvd due.2⟩

theorem setTag_of_not_due {store : TagStore} {heap : Heap} {object : ObjectId} {tag : GuestType}
    (notDue : ¬ (store.interval ≠ 0 ∧ store.interval ∣ store.insertions + 1)) :
    store.setTag heap object tag = store.insert object tag := by
  rw [Nat.dvd_iff_mod_eq_zero] at notDue
  exact if_neg notDue

theorem lastTag?_setTag (object other : ObjectId) (tag : GuestType) (history : List Request) :
    lastTag? other (history ++ [.setTag object tag]) =
      if object = other then some tag else lastTag? other history := by
  rw [lastTag?_snoc, Request.tagOf?]
  split <;> rfl

namespace Session

variable {start : Session} {history : List Request} {request : Request}

/-- A sweep leaves the entries of held objects, and nothing awaits the next one. -/
theorem represents_swept {entries : List (ObjectId × GuestType)} (sorted : Descending entries)
    (tags : ∀ entry ∈ entries, lastTag? entry.1 (history ++ [request]) = some entry.2)
    (tagged : ∀ object, (start.after (history ++ [request])).heap.isHeld object →
      (object ∈ entries.map Prod.fst ↔ (lastTag? object (history ++ [request])).isSome))
    (left : (start.after (history ++ [request])).store.entries =
      entries.filter fun entry => (start.after (history ++ [request])).heap.isHeld entry.1)
    (known : ∀ object, (lastTag? object (history ++ [request])).isSome →
      object.index < (start.after (history ++ [request])).heap.objects.size)
    (sameInterval : (start.after (history ++ [request])).store.interval = start.store.interval)
    (insertions : (start.after (history ++ [request])).store.insertions =
      taggings (history ++ [request]))
    (swept : Sweeps start.store.interval history request) :
    start.Represents (history ++ [request]) where
  sorted := by
    rw [left]
    exact List.Pairwise.filter _ sorted
  object_mem_iff object := by
    rw [left, object_mem_filter, awaits_snoc]
    simp only [swept, not_true_eq_false, false_and, or_false, LiveTagged]
    exact and_congr_right (tagged object)
  tag_of_mem entry member := by
    rw [left] at member
    exact tags entry (List.mem_of_mem_filter member)
  known := known
  interval_eq := sameInterval
  insertions_eq := insertions

namespace Represents

theorem mem_iff_of_isHeld (before : start.Represents history) {object : ObjectId}
    (held : (start.after history).heap.isHeld object) :
    object ∈ (start.after history).store.entries.map Prod.fst ↔
      (lastTag? object history).isSome := by
  rw [before.object_mem_iff]
  simp [LiveTagged, Awaits, held]

theorem purge (before : start.Represents history) : start.Represents (history ++ [.purge]) := by
  have sameTag (object : ObjectId) : lastTag? object (history ++ [.purge]) =
      lastTag? object history := by
    simp [lastTag?_snoc, Request.tagOf?]
  have next := start.after_snoc history .purge
  refine represents_swept before.sorted (fun entry member => ?_) (fun object held => ?_) ?_
    (fun object tagged => ?_) ?_ ?_ trivial
  · rw [sameTag]
    exact before.tag_of_mem entry member
  · rw [sameTag]
    exact before.mem_iff_of_isHeld (by rwa [next] at held)
  · rw [next]
    rfl
  · rw [next]
    exact before.known object (sameTag object ▸ tagged)
  · rw [next]
    exact before.interval_eq
  · rw [next, taggings_snoc]
    exact before.insertions_eq

variable {object : ObjectId} {tag : GuestType}

theorem tag_of_mem_insertEntry (before : start.Represents history) :
    ∀ entry ∈ insertEntry object tag (start.after history).store.entries,
      lastTag? entry.1 (history ++ [.setTag object tag]) = some entry.2 := by
  intro entry member
  rw [lastTag?_setTag]
  rcases (mem_insertEntry before.sorted).1 member with rfl | ⟨old, other⟩
  · simp
  · rw [if_neg (Ne.symm other)]
    exact before.tag_of_mem entry old

theorem known_of_setTag (before : start.Represents history) (tag : GuestType)
    (held : (start.after history).heap.isHeld object) :
    ∀ other, (lastTag? other (history ++ [.setTag object tag])).isSome →
      other.index < (start.after history).heap.objects.size := by
  intro other tagged
  rw [lastTag?_setTag] at tagged
  split at tagged
  · subst other
    exact Heap.index_lt_of_isHeld held
  · exact before.known other tagged

theorem insertions_setTag (before : start.Represents history) :
    (start.after history).store.insertions + 1 = taggings (history ++ [.setTag object tag]) := by
  rw [before.insertions_eq, taggings_snoc]
  rfl

theorem sweeps_setTag (before : start.Represents history) :
    Sweeps start.store.interval history (.setTag object tag) ↔
      (start.after history).store.interval ≠ 0 ∧
        (start.after history).store.interval ∣ (start.after history).store.insertions + 1 := by
  rw [before.interval_eq, before.insertions_eq]
  rfl

theorem setTag (before : start.Represents history)
    (held : (start.after history).heap.isHeld object) :
    start.Represents (history ++ [.setTag object tag]) := by
  have next := start.after_snoc history (.setTag object tag)
  have sameHeap : (start.after (history ++ [.setTag object tag])).heap =
      (start.after history).heap := by rw [next]; rfl
  have inserted : Descending (insertEntry object tag (start.after history).store.entries) :=
    descending_insertEntry before.sorted
  have known := sameHeap.symm ▸ before.known_of_setTag tag held
  by_cases swept : Sweeps start.store.interval history (.setTag object tag)
  · have store : (start.after (history ++ [.setTag object tag])).store =
        ((start.after history).store.insert object tag).sweep (start.after history).heap := by
      rw [next]
      exact setTag_of_due (before.sweeps_setTag.1 swept)
    refine represents_swept inserted before.tag_of_mem_insertEntry (fun other heldOther => ?_) ?_
      known ?_ ?_ swept
    · rw [sameHeap] at heldOther
      rw [object_mem_insertEntry before.sorted, before.mem_iff_of_isHeld heldOther, lastTag?_setTag]
      split <;> simp [*]
    · rw [store, sameHeap]
      rfl
    · rw [store]
      exact before.interval_eq
    · rw [store]
      exact before.insertions_setTag
  · have store : (start.after (history ++ [.setTag object tag])).store =
        (start.after history).store.insert object tag := by
      rw [next]
      exact setTag_of_not_due (mt before.sweeps_setTag.2 swept)
    have entries : (start.after (history ++ [.setTag object tag])).store.entries =
        insertEntry object tag (start.after history).store.entries := by rw [store]; rfl
    refine ⟨entries ▸ inserted, fun other => ?_,
      entries ▸ before.tag_of_mem_insertEntry, known, ?_, ?_⟩
    · rw [entries, object_mem_insertEntry before.sorted, before.object_mem_iff, awaits_snoc]
      unfold LiveTagged
      rw [sameHeap, lastTag?_setTag]
      simp only [swept, not_false_eq_true, true_and, Awaits]
      grind
    · rw [store]
      exact before.interval_eq
    · rw [store]
      exact before.insertions_setTag

end Represents

/-- Every admitted run ends in the representation of its own history. -/
theorem represents_after (heap : Heap) (interval : Nat) (requests : List Request)
    (admitted : (fresh heap interval).Admits requests) :
    (fresh heap interval).Represents requests := by
  induction requests using List.reverseRecOn with
  | nil => exact represents_nil heap interval
  | append_singleton history request ih =>
    obtain ⟨earlier, subjects⟩ := admits_snoc.1 admitted
    have before := ih earlier
    cases request with
    | setTag object tag => exact before.setTag (subjects object rfl)
    | purge => exact before.purge
    | create | release | reclaim | getTag | isArrayInstance | size | liveSize =>
      exact before.kept rfl (fun _ => rfl) rfl id

private theorem ncard_eq_length {objects : List ObjectId} {counted : ObjectId → Prop}
    (distinct : objects.Nodup) (mem_iff : ∀ object, object ∈ objects ↔ counted object) :
    {object | counted object}.ncard = objects.length := by
  have same : {object | counted object} = ↑objects.toFinset := by
    ext object
    simp [mem_iff]
  rw [same, Set.ncard_coe_finset, List.toFinset_card_of_nodup distinct]

namespace Represents

variable {object : ObjectId}

theorem tag?_eq (now : start.Represents history)
    (held : (start.after history).heap.isHeld object) :
    (start.after history).store.tag? (start.after history).heap object =
      lastTag? object history := by
  rw [tag?, if_pos held]
  have member := now.mem_iff_of_isHeld held
  cases given : lastTag? object history with
  | none =>
    rw [given] at member
    refine List.lookup_eq_none_iff.2 fun entry inside => ?_
    simp only [Option.isSome_none, Bool.false_eq_true, iff_false] at member
    simp only [bne_iff_ne, ne_eq]
    rintro rfl
    exact member (List.mem_map_of_mem inside)
  | some tag =>
    rw [given] at member
    obtain ⟨entry, inside, rfl⟩ := List.mem_map.1 (member.2 rfl)
    have same := (now.tag_of_mem entry inside).symm.trans given
    exact lookup_eq_of_mem now.sorted (Option.some.inj same ▸ inside)

theorem liveSize_eq (now : start.Represents history) :
    (start.after history).store.liveSize (start.after history).heap =
      {object | start.LiveTagged history object}.ncard := by
  rw [ncard_eq_length (Descending.nodup (List.Pairwise.filter _ now.sorted)) fun object => ?_,
    List.length_map]
  · rfl
  · rw [object_mem_filter, now.object_mem_iff]
    simp only [LiveTagged, Awaits]
    grind

theorem departed_eq (now : start.Represents history) :
    ((start.after history).store.entries.filter fun entry =>
        !(start.after history).heap.isHeld entry.1).length =
      {object | start.Awaits history object}.ncard := by
  rw [ncard_eq_length (Descending.nodup (List.Pairwise.filter _ now.sorted)) fun object => ?_,
    List.length_map]
  have member := now.object_mem_iff object
  simp only [List.mem_map, List.mem_filter, LiveTagged, Awaits] at member ⊢
  grind

theorem size_eq (now : start.Represents history) :
    (start.after history).store.size = {object | start.LiveTagged history object}.ncard +
      {object | start.Awaits history object}.ncard := by
  rw [← now.liveSize_eq, ← now.departed_eq]
  exact List.length_eq_length_filter_add _

end Represents

theorem not_awaits_of_sweeps (swept : Sweeps start.store.interval history request) :
    {object | start.Awaits (history ++ [request]) object}.ncard = 0 := by
  have none : {object | start.Awaits (history ++ [request]) object} = ∅ := by
    ext object
    simp [awaits_snoc, swept]
  rw [none, Set.ncard_empty]

@[simp] theorem lastTag?_purge (object : ObjectId) (history : List Request) :
    lastTag? object (history ++ [.purge]) = lastTag? object history :=
  lastTag?_snoc object history .purge

theorem liveTagged_purge {object : ObjectId} :
    start.LiveTagged (history ++ [.purge]) object ↔ start.LiveTagged history object := by
  simp only [LiveTagged, after_snoc, lastTag?_purge]
  rfl

/-- A purge drops what awaits it, and the entries it leaves are those of live tagged objects. -/
theorem Represents.purge_counts (before : start.Represents history) :
    ((start.after history).store.purge (start.after history).heap).1 =
        {object | start.Awaits history object}.ncard ∧
      (start.after (history ++ [.purge])).store.size =
        {object | start.LiveTagged history object}.ncard ∧
      (start.after (history ++ [.purge])).store.liveSize (start.after (history ++ [.purge])).heap =
        {object | start.LiveTagged history object}.ncard := by
  have purged := before.purge
  have none : {object | start.Awaits (history ++ [.purge]) object}.ncard = 0 :=
    not_awaits_of_sweeps trivial
  have size := purged.size_eq
  have liveSize := purged.liveSize_eq
  simp only [liveTagged_purge] at size liveSize
  refine ⟨?_, by rw [size, none, Nat.add_zero], liveSize⟩
  change (start.after history).store.size -
    (start.after history).store.liveSize (start.after history).heap = _
  rw [before.size_eq, before.liveSize_eq, Nat.add_sub_cancel_left]

/-- After any admitted run a store answers from the history alone. A held object has the tag it was
last given, the sizes count the live tagged objects and those that await a sweep, a purge removes
the latter and nothing else, and so does every tagging whose ordinal the interval divides. -/
theorem respond_after (heap : Heap) (interval : Nat) (history : List Request)
    (admitted : (fresh heap interval).Admits history) :
    let start := fresh heap interval
    let now := start.after history
    let live := {object | start.LiveTagged history object}.ncard
    let awaiting := {object | start.Awaits history object}.ncard
    (∀ object, now.heap.isHeld object →
      now.respond (.getTag object) = (.tag (lastTag? object history), now)) ∧
    (∀ object type rank, now.heap.isHeld object →
      now.respond (.isArrayInstance object type rank) =
        (.verdict ((lastTag? object history).any (·.assignable (type.arrayOf rank))), now)) ∧
    now.respond .liveSize = (.count live, now) ∧
    now.respond .size = (.count (live + awaiting), now) ∧
    (∃ swept, now.respond .purge = (.count awaiting, swept) ∧
      swept.respond .size = (.count live, swept) ∧
      swept.respond .liveSize = (.count live, swept) ∧
      ∀ object, now.heap.isHeld object →
        swept.respond (.getTag object) = (.tag (lastTag? object history), swept)) ∧
    (∀ earlier object tag, history = earlier ++ [.setTag object tag] → interval ≠ 0 →
      interval ∣ taggings history → now.respond .size = now.respond .liveSize) := by
  intro start now live awaiting
  have represented : start.Represents history := represents_after heap interval history admitted
  have size : now.store.size = live + awaiting := represented.size_eq
  have liveSize : now.store.liveSize now.heap = live := represented.liveSize_eq
  have given (object : ObjectId) (held : now.heap.isHeld object) :
      now.store.tag? now.heap object = lastTag? object history := represented.tag?_eq held
  refine ⟨fun object held => ?_, fun object type rank held => ?_, ?_, ?_, ?_, ?_⟩
  · simp only [respond, given object held]
  · simp only [respond, isArrayInstance, given object held]
    cases lastTag? object history <;> rfl
  · simp only [respond, liveSize]
  · simp only [respond, size]
  · obtain ⟨removed, sweptSize, sweptLive⟩ := represented.purge_counts
    have next : start.after (history ++ [.purge]) = (now.respond .purge).2 := start.after_snoc ..
    refine ⟨start.after (history ++ [.purge]), ?_, ?_, ?_, fun object held => ?_⟩
    · exact Prod.ext (congrArg Answer.count removed) next.symm
    · simp only [respond, sweptSize, live]
    · simp only [respond, sweptLive, live]
    · have sweptHeld : (start.after (history ++ [.purge])).heap.isHeld object := by
        rw [next]
        exact held
      simp only [respond, represented.purge.tag?_eq sweptHeld, lastTag?_purge]
  · rintro earlier object tag rfl nonzero divides
    have swept : Sweeps start.store.interval earlier (.setTag object tag) := by
      rw [taggings_snoc] at divides
      exact ⟨nonzero, divides⟩
    have none : awaiting = 0 := not_awaits_of_sweeps swept
    simp only [respond, size, liveSize, none, Nat.add_zero]

/-- Two objects are made and tagged, the first departs, and the second is tagged again. -/
def retagging : List Request :=
  [.create ⟨4, "demo.Thing", false, []⟩ none, .create ⟨4, "demo.Thing", false, []⟩ none,
    .setTag ⟨0⟩ (.ofGhost "demo.Named" []), .setTag ⟨1⟩ (.ofGhost "demo.Named" []),
    .release ⟨0⟩, .setTag ⟨1⟩ (.ofGhost "demo.Other" [])]

theorem retagging_getTag :
    (fresh {} 4).Admits retagging ∧ ((fresh {} 4).after retagging).heap.isHeld ⟨1⟩ ∧
      ((fresh {} 4).after retagging).respond (.getTag ⟨1⟩) =
        (.tag (some (.ofGhost "demo.Other" [])), (fresh {} 4).after retagging) := by
  have admitted : (fresh {} 4).Admits retagging := by decide
  have held : ((fresh {} 4).after retagging).heap.isHeld ⟨1⟩ := by decide
  exact ⟨admitted, held, (respond_after {} 4 retagging admitted).1 ⟨1⟩ held⟩

end Session

end TagStore

end GuestBridge
