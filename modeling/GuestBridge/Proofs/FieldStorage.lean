import GuestBridge.Proofs.CompareAndSwap

/-!
Storage of fields over whole runs. Classes are defined, instances created and fields accessed in any
order. Every declaration has a slot of its own in its storage, and the cell there keeps the kind of
the declaration for ever. So an access that finds its receiver finds a cell, and a write reaches one
declaration of one class, on one instance if the field is not static.
-/
namespace GuestBridge

theorem Value.fits_reference {value : Value} (fits : value.fits .reference = true) :
    value = .null ∨ ∃ target, value = .ref target := by
  cases value with
  | null => exact .inl rfl
  | ref target => exact .inr ⟨target, rfl⟩
  | boolean | byte | char | short | int | long | float | double => cases fits

namespace Heap

/-- The later heap may have new objects and classes; those of the earlier one are what they were. -/
structure Grows (before after : Heap) : Prop where
  size_le : before.objects.size ≤ after.objects.size
  origin_eq : ∀ object : ObjectId, object.index < before.objects.size →
    (after.object object).origin = (before.object object).origin
  nextIdentity_le : before.nextIdentity ≤ after.nextIdentity

theorem Grows.refl (heap : Heap) : heap.Grows heap :=
  ⟨Nat.le_refl _, fun _ _ => rfl, Nat.le_refl _⟩

theorem Grows.trans {first second third : Heap} (early : first.Grows second)
    (late : second.Grows third) : first.Grows third where
  size_le := Nat.le_trans early.size_le late.size_le
  origin_eq object known :=
    (late.origin_eq object (Nat.lt_of_lt_of_le known early.size_le)).trans
      (early.origin_eq object known)
  nextIdentity_le := Nat.le_trans early.nextIdentity_le late.nextIdentity_le

theorem DiffersAt.grows {place : Place} {before after : Heap}
    (changed : DiffersAt place before after) : before.Grows after where
  size_le := Nat.le_of_eq changed.size_eq.symm
  origin_eq object _ := changed.origin_eq object
  nextIdentity_le := Nat.le_of_eq changed.nextIdentity_eq.symm

theorem grows_allocate (heap : Heap) (record : HostObject) :
    heap.Grows (heap.allocate record).2 where
  size_le := by simp [allocate]
  origin_eq object known := by
    simp [allocate, Heap.object, Array.getElem?_push, Nat.ne_of_lt known]
  nextIdentity_le := Nat.le_refl _

end Heap

inductive FieldAccess where
  | get (strategy : Access.Strategy)
  | set (strategy : Access.Strategy) (value : Value)
  | exchange (expected update : Value)

namespace BoundField

open Access

variable {field : BoundField} {heap : Heap} {receiver : Option ObjectId} {place : Place}

def perform (field : BoundField) (receiver : Option ObjectId) :
    FieldAccess → Action Heap Fault Outcome
  | .get strategy => Outcome.value <$> field.get strategy receiver
  | .set strategy value => (fun _ => Outcome.stored) <$> field.set strategy receiver value
  | .exchange expected update => Outcome.exchanged <$> field.exchange receiver expected update

/-- An access puts at most one cell into the heap, at the place of the field. -/
theorem perform_changes (laidOut : field.LaidOut) (heap : Heap) (receiver : Option ObjectId)
    (access : FieldAccess) :
    ((field.perform receiver access).run heap).2 = heap ∨
      ∃ place cell, field.place heap receiver = .ok place ∧
        ((field.perform receiver access).run heap).2 = heap.setCell cell place := by
  cases access with
  | get strategy =>
    simp only [perform, Action.run_map]
    cases reached : field.place heap receiver with
    | error fault => simp [run_get_of_fault laidOut reached]
    | ok place =>
      obtain ⟨cell, present, sameKind⟩ := Heap.exists_cell (kindAt?_place laidOut reached)
      simp [run_get_of_place laidOut reached present sameKind]
  | set strategy value =>
    simp only [perform, Action.run_map]
    cases reached : field.place heap receiver with
    | error fault => simp [run_set_of_fault laidOut reached]
    | ok place =>
      obtain ⟨cell, present, sameKind⟩ := Heap.exists_cell (kindAt?_place laidOut reached)
      rw [run_set_of_place laidOut reached present sameKind, Heap.run_store present]
      split
      · exact .inr ⟨place, _, rfl, rfl⟩
      · exact .inl rfl
  | exchange expected update =>
    simp only [perform, Action.run_map]
    have exchanges := exchanges_run laidOut heap receiver expected update
    generalize (field.exchange receiver expected update).run heap = result at exchanges ⊢
    cases exchanges with
    | unsupported | refused | misfit | different => exact .inl rfl
    | swapped kind reached => exact .inr ⟨_, _, reached, rfl⟩

theorem place_eq_ok_iff : field.place heap receiver = .ok place ↔
    (field.isStatic = true ∧ place = .static field.declaring.layout field.field.slot) ∨
      (field.isStatic = false ∧ ∃ object, receiver = some object ∧
        (heap.object object).origin = field.declaring.layout ∧
        place = .field object field.field.slot) := by
  unfold BoundField.place
  cases field.isStatic with
  | true => simp [eq_comm]
  | false =>
    cases receiver with
    | none => simp
    | some object =>
      by_cases sameClass : (heap.object object).origin = field.declaring.layout <;>
        simp [sameClass, eq_comm (a := place)]

/-- Where an access goes is settled once the receiver exists. -/
theorem place_of_grows (laidOut : field.LaidOut) {after : Heap} (grows : heap.Grows after)
    (reached : field.place heap receiver = .ok place) :
    field.place after receiver = .ok place := by
  have kindAt := kindAt?_place laidOut reached
  rw [place_eq_ok_iff] at reached ⊢
  rcases reached with static | ⟨dynamic, object, sameReceiver, sameClass, rfl⟩
  · exact .inl static
  · have known := Heap.index_lt_of_kindAt? kindAt
    exact .inr ⟨dynamic, object, sameReceiver, grows.origin_eq object known ▸ sameClass, rfl⟩

/-- A place tells its class, its storage and slot, and the instance unless it is static. -/
theorem eq_of_place_eq {other : BoundField} {otherReceiver : Option ObjectId}
    (reached : field.place heap receiver = .ok place)
    (otherReached : other.place heap otherReceiver = .ok place) :
    field.declaring.layout = other.declaring.layout ∧ field.isStatic = other.isStatic ∧
      field.field.slot = other.field.slot ∧
      (field.isStatic = false → receiver = otherReceiver) := by
  rw [place_eq_ok_iff] at reached otherReached
  rcases reached with ⟨static, rfl⟩ | ⟨dynamic, object, rfl, sameClass, rfl⟩ <;>
    rcases otherReached with ⟨otherStatic, same⟩ | ⟨otherDynamic, _, rfl, otherClass, same⟩
  case inl.inl =>
    obtain ⟨sameLayout, sameSlot⟩ := Place.static.inj same
    exact ⟨sameLayout, static.trans otherStatic.symm, sameSlot, fun dynamic => by
      simp [static] at dynamic⟩
  case inl.inr => cases same
  case inr.inl => cases same
  case inr.inr =>
    obtain ⟨rfl, sameSlot⟩ := Place.field.inj same
    exact ⟨sameClass.symm.trans otherClass, dynamic.trans otherDynamic.symm, sameSlot,
      fun _ => rfl⟩

end BoundField

/-- A heap with the classes that were defined on it, oldest first. -/
structure Site where
  heap : Heap
  classes : List HostClass := []

namespace Site

/-- What is done on a site. Classes go by their positions, fields by name and signature. -/
inductive Request where
  | define (definition : ClassDefinition)
  | create (owner : Nat) (payload : Option Payload)
  | access (owner : Nat) (name signature : String) (receiver : Option ObjectId)
    (access : FieldAccess)

/-- The field that a name and a signature stand for in a class of the site. -/
def field? (site : Site) (owner : Nat) (name signature : String) : Option BoundField :=
  site.classes[owner]?.bind fun owner => (BoundField.resolve owner name signature).toOption

def next (site : Site) : Request → Site
  | .define definition =>
    match definition.define.run site.heap with
    | (.ok owner, heap) => ⟨heap, site.classes ++ [owner]⟩
    | (.error _, heap) => { site with heap }
  | .create owner payload =>
    match site.classes[owner]? with
    | some owner => { site with heap := (site.heap.allocate (.ofLayout owner.layout payload)).2 }
    | none => site
  | .access owner name signature receiver access =>
    match site.field? owner name signature with
    | some field => { site with heap := ((field.perform receiver access).run site.heap).2 }
    | none => site

def after (site : Site) (requests : List Request) : Site := requests.foldl next site

/-- Every class was built from a definition, under an identity that no later class has. -/
structure Sound (site : Site) : Prop where
  built : ∀ owner ∈ site.classes, ∃ definition : ClassDefinition,
    definition.build owner.layout.identity = .ok owner
  ascending : (site.classes.map (·.layout.identity)).Pairwise (· < ·)
  below : ∀ owner ∈ site.classes, owner.layout.identity < site.heap.nextIdentity

variable {site : Site}

theorem run_define (definition : ClassDefinition) (heap : Heap) :
    definition.define.run heap =
      match definition.build heap.nextIdentity with
      | .error fault => (.error fault, heap)
      | .ok owner =>
        let kept := definition.methods.flatMap HostMethod.keeps
        (.ok owner, { heap with
          nextIdentity := heap.nextIdentity + 1
          constants :=
            if kept.isEmpty then heap.constants else (owner.layout, kept) :: heap.constants }) := by
  simp only [ClassDefinition.define, Action.run_bind, Action.run_get, Action.run_liftM]
  cases definition.build heap.nextIdentity <;> rfl

theorem Sound.laidOut (sound : site.Sound) {owner : HostClass} (known : owner ∈ site.classes)
    {field : HostField} (declared : field ∈ owner.layout.fields) :
    BoundField.LaidOut ⟨owner, field⟩ := by
  obtain ⟨definition, built⟩ := sound.built owner known
  exact ClassDefinition.storageKinds_slot built declared

theorem Sound.laidOut_of_field? (sound : site.Sound) {owner : Nat} {name signature : String}
    {field : BoundField} (found : site.field? owner name signature = some field) :
    field.LaidOut := by
  obtain ⟨known, atOwner, resolved⟩ := Option.bind_eq_some_iff.1 found
  obtain ⟨definition, built⟩ := sound.built known (List.mem_of_getElem? atOwner)
  cases outcome : BoundField.resolve known name signature with
  | error fault => simp [outcome, Except.toOption] at resolved
  | ok bound =>
    obtain rfl : bound = field := by simpa [outcome, Except.toOption] using resolved
    exact BoundField.laidOut_of_resolve built outcome

/-- Two classes of a site are different classes, also if they were defined alike. -/
theorem Sound.number_eq_of_layout_eq (sound : site.Sound) {first second : Nat}
    {left right : HostClass} (atFirst : site.classes[first]? = some left)
    (atSecond : site.classes[second]? = some right) (same : left.layout = right.layout) :
    first = second := by
  have distinct : (site.classes.map (·.layout.identity)).Nodup :=
    sound.ascending.imp Nat.ne_of_lt
  have bound : first < (site.classes.map (·.layout.identity)).length := by
    rw [List.length_map]
    exact (List.getElem?_eq_some_iff.1 atFirst).1
  refine (List.getElem?_inj bound distinct).1 ?_
  rw [List.getElem?_map, List.getElem?_map, atFirst, atSecond, Option.map_some, Option.map_some,
    same]

theorem Sound.next (sound : site.Sound) (request : Request) :
    (site.next request).Sound ∧ site.heap.Grows (site.next request).heap := by
  cases request with
  | define definition =>
    simp only [Site.next, run_define]
    cases built : definition.build site.heap.nextIdentity with
    | error fault => exact ⟨sound, Heap.Grows.refl _⟩
    | ok owner =>
      have identity := ClassDefinition.identity_of_build built
      refine ⟨⟨fun known member => ?_, ?_, fun known member => ?_⟩,
        ⟨Nat.le_refl _, fun _ _ => rfl, Nat.le_succ _⟩⟩
      · rcases List.mem_append.1 member with old | new
        · exact sound.built known old
        · obtain rfl := List.mem_singleton.1 new
          exact ⟨definition, identity.symm ▸ built⟩
      · rw [List.map_append, List.pairwise_append]
        refine ⟨sound.ascending, List.pairwise_singleton _ _, fun earlier old later new => ?_⟩
        obtain ⟨known, member, rfl⟩ := List.mem_map.1 old
        obtain rfl : later = owner.layout.identity := by simpa using new
        exact identity.symm ▸ sound.below known member
      · rcases List.mem_append.1 member with old | new
        · exact Nat.lt_succ_of_lt (sound.below known old)
        · obtain rfl := List.mem_singleton.1 new
          exact identity.symm ▸ Nat.lt_succ_self _
  | create owner payload =>
    simp only [Site.next]
    split
    case h_1 owner known =>
      have grows := Heap.grows_allocate site.heap (.ofLayout owner.layout payload)
      exact ⟨⟨sound.built, sound.ascending, sound.below⟩, grows⟩
    case h_2 => exact ⟨sound, Heap.Grows.refl _⟩
  | access owner name signature receiver access =>
    simp only [Site.next]
    split
    case h_1 field found =>
      have grows : site.heap.Grows ((field.perform receiver access).run site.heap).2 := by
        rcases BoundField.perform_changes (sound.laidOut_of_field? found) site.heap receiver access
          with same | ⟨place, cell, -, written⟩
        · exact same.symm ▸ Heap.Grows.refl _
        · exact written.symm ▸ (Heap.differsAt_setCell site.heap place cell).grows
      refine ⟨⟨sound.built, sound.ascending, fun known member => ?_⟩, grows⟩
      exact Nat.lt_of_lt_of_le (sound.below known member) grows.nextIdentity_le
    case h_2 => exact ⟨sound, Heap.Grows.refl _⟩

theorem Sound.after (sound : site.Sound) (requests : List Request) :
    (site.after requests).Sound ∧ site.heap.Grows (site.after requests).heap := by
  induction requests generalizing site with
  | nil => exact ⟨sound, Heap.Grows.refl _⟩
  | cons request rest ih =>
    obtain ⟨soundNext, grows⟩ := sound.next request
    obtain ⟨soundAfter, later⟩ := ih soundNext
    exact ⟨soundAfter, grows.trans later⟩

theorem sound_of_no_classes (heap : Heap) : Sound { heap } :=
  ⟨by simp, List.Pairwise.nil, by simp⟩

/-- What holds of one declaration of a class: its slot, its cells now and later, and what reads and
writes of it do. -/
structure Stores (site : Site) (number : Nat) (owner : HostClass) (position : Nat)
    (field : HostField) : Prop where
  declared : ∃ definition : ClassDefinition, definition.build owner.layout.identity = .ok owner ∧
    definition.fields[position]? = some field.declaration ∧
    FieldKind.ofSignature? field.signature = some field.kind
  slot_lt : field.slot < (owner.layout.storageKinds field.isStatic).length
  slot_ne : ∀ other another, owner.layout.fields[other]? = some another → other ≠ position →
    another.isStatic = field.isStatic → another.slot ≠ field.slot
  /-- The name and the signature lead to the first declaration that has both. -/
  resolve_iff : BoundField.resolve owner field.name field.signature = .ok ⟨owner, field⟩ ↔
    ∀ earlier another, owner.layout.fields[earlier]? = some another → earlier < position →
      ¬ (another.name = field.name ∧ another.signature = field.signature)
  cell_kind : ∀ receiver place, BoundField.place ⟨owner, field⟩ site.heap receiver = .ok place →
    ∀ later, BoundField.place ⟨owner, field⟩ (site.after later).heap receiver = .ok place ∧
      ∃ cell, (site.after later).heap.cell? place = some cell ∧ cell.kind = field.kind
  get : ∀ receiver, (field.isStatic ∨ ∃ object, receiver = some object ∧
      (site.heap.object object).origin = owner.layout) →
    ∃ value, (∀ strategy, (BoundField.get ⟨owner, field⟩ strategy receiver).run site.heap =
        (.ok value, site.heap)) ∧
      value.fits field.kind ∧
      (field.kind = .reference → value = .null ∨ ∃ target, value = .ref target)
  /-- Whatever another class, declaration or instance has at this place stays there. -/
  write : ∀ receiver access otherNumber otherOwner otherPosition otherField otherReceiver place,
    site.classes[otherNumber]? = some otherOwner →
    otherOwner.layout.fields[otherPosition]? = some otherField →
    BoundField.place ⟨otherOwner, otherField⟩ site.heap otherReceiver = .ok place →
    otherNumber ≠ number ∨ otherPosition ≠ position ∨
      (field.isStatic = false ∧ otherReceiver ≠ receiver) →
    let written := ((BoundField.perform ⟨owner, field⟩ receiver access).run site.heap).2
    written.cell? place = site.heap.cell? place ∧
      ∀ strategy, (BoundField.get ⟨otherOwner, otherField⟩ strategy otherReceiver).run written =
        (((BoundField.get ⟨otherOwner, otherField⟩ strategy otherReceiver).run site.heap).1,
          written)

section Field

variable {number position : Nat} {owner : HostClass} {field : HostField}

theorem resolve_eq_iff {definition : ClassDefinition} {identity : Nat}
    (built : definition.build identity = .ok owner)
    (declared : owner.layout.fields[position]? = some field) :
    BoundField.resolve owner field.name field.signature = .ok ⟨owner, field⟩ ↔
      ∀ earlier another, owner.layout.fields[earlier]? = some another → earlier < position →
        ¬ (another.name = field.name ∧ another.signature = field.signature) := by
  have found : BoundField.resolve owner field.name field.signature = .ok ⟨owner, field⟩ ↔
      owner.layout.findField? field.name field.signature = some field := by
    unfold BoundField.resolve
    cases owner.layout.findField? field.name field.signature <;> simp
  have unlike (another : HostField) :
      (!(another.name == field.name && another.signature == field.signature)) = true ↔
        ¬ (another.name = field.name ∧ another.signature = field.signature) := by
    rw [Bool.not_eq_true', ← Bool.not_eq_true, Bool.and_eq_true, beq_iff_eq, beq_iff_eq]
  rw [found, ClassLayout.findField?, List.find?_eq_some_iff_getElem]
  obtain ⟨bound, atPosition⟩ := List.getElem?_eq_some_iff.1 declared
  constructor
  · rintro ⟨-, first, firstBound, atFirst, unmatched⟩ earlier another atEarlier below
    have same : first = position := ClassDefinition.position_eq_of_slot_eq built
      (List.getElem?_eq_some_iff.2 ⟨firstBound, atFirst⟩) declared rfl rfl
    subst same
    obtain ⟨_, rfl⟩ := List.getElem?_eq_some_iff.1 atEarlier
    exact (unlike _).1 (unmatched earlier below)
  · intro unmatched
    refine ⟨by simp, position, bound, atPosition, fun earlier below => ?_⟩
    exact (unlike _).2 (unmatched earlier _ (List.getElem?_eq_getElem (by omega)) below)

theorem Sound.get_eq (sound : site.Sound) (atNumber : site.classes[number]? = some owner)
    (declared : owner.layout.fields[position]? = some field) {receiver : Option ObjectId}
    {place : Place} (reached : BoundField.place ⟨owner, field⟩ site.heap receiver = .ok place) :
    ∃ cell, site.heap.cell? place = some cell ∧ cell.kind = field.kind ∧
      ∀ strategy, (BoundField.get ⟨owner, field⟩ strategy receiver).run site.heap =
        (.ok cell.content, site.heap) := by
  have laidOut := sound.laidOut (List.mem_of_getElem? atNumber) (List.mem_of_getElem? declared)
  obtain ⟨cell, present, sameKind⟩ :=
    Heap.exists_cell (BoundField.kindAt?_place laidOut reached)
  exact ⟨cell, present, sameKind, BoundField.run_get_of_place laidOut reached present sameKind⟩

/-- A write leaves the cells of all other declarations, and so what gets of them answer. -/
theorem Sound.unwritten (sound : site.Sound) (atNumber : site.classes[number]? = some owner)
    (declared : owner.layout.fields[position]? = some field) (receiver : Option ObjectId)
    (access : FieldAccess) {otherNumber otherPosition : Nat} {otherOwner : HostClass}
    {otherField : HostField} {otherReceiver : Option ObjectId} {place : Place}
    (atOther : site.classes[otherNumber]? = some otherOwner)
    (otherDeclared : otherOwner.layout.fields[otherPosition]? = some otherField)
    (reached : BoundField.place ⟨otherOwner, otherField⟩ site.heap otherReceiver = .ok place)
    (apart : otherNumber ≠ number ∨ otherPosition ≠ position ∨
      (field.isStatic = false ∧ otherReceiver ≠ receiver)) :
    let written := ((BoundField.perform ⟨owner, field⟩ receiver access).run site.heap).2
    written.cell? place = site.heap.cell? place ∧
      ∀ strategy, (BoundField.get ⟨otherOwner, otherField⟩ strategy otherReceiver).run written =
        (((BoundField.get ⟨otherOwner, otherField⟩ strategy otherReceiver).run site.heap).1,
          written) := by
  intro written
  have laidOut := sound.laidOut (List.mem_of_getElem? atNumber) (List.mem_of_getElem? declared)
  have otherLaidOut :=
    sound.laidOut (List.mem_of_getElem? atOther) (List.mem_of_getElem? otherDeclared)
  obtain ⟨cell, present, sameKind, read⟩ := sound.get_eq atOther otherDeclared reached
  rcases BoundField.perform_changes laidOut site.heap receiver access
    with same | ⟨target, stored, targetReached, changed⟩
  · have unchanged : written = site.heap := same
    refine ⟨by rw [unchanged], fun strategy => ?_⟩
    rw [unchanged, read]
  · have written_eq : written = site.heap.setCell stored target := changed
    have differs : Heap.DiffersAt target site.heap written :=
      written_eq ▸ Heap.differsAt_setCell site.heap target stored
    have different : place ≠ target := by
      rintro rfl
      obtain ⟨sameLayout, sameStorage, sameSlot, sameReceiver⟩ :=
        BoundField.eq_of_place_eq targetReached reached
      obtain rfl : number = otherNumber := sound.number_eq_of_layout_eq atNumber atOther sameLayout
      obtain rfl : owner = otherOwner := Option.some.inj (atNumber.symm.trans atOther)
      obtain ⟨definition, built⟩ := sound.built owner (List.mem_of_getElem? atNumber)
      have samePosition := ClassDefinition.position_eq_of_slot_eq built declared otherDeclared
        sameStorage sameSlot
      rcases apart with other | other | ⟨dynamic, other⟩
      · exact other rfl
      · exact other samePosition.symm
      · exact other (sameReceiver dynamic).symm
    have kept := differs.cell?_eq place different
    refine ⟨kept, fun strategy => ?_⟩
    rw [read]
    exact BoundField.run_get_of_place otherLaidOut
      ((BoundField.place_of_differsAt differs).trans reached) (kept.trans present) sameKind strategy

theorem Sound.stores (sound : site.Sound) (atNumber : site.classes[number]? = some owner)
    (declared : owner.layout.fields[position]? = some field) :
    site.Stores number owner position field := by
  have known := List.mem_of_getElem? atNumber
  have member := List.mem_of_getElem? declared
  obtain ⟨definition, built⟩ := sound.built owner known
  have laidOut : BoundField.LaidOut ⟨owner, field⟩ := sound.laidOut known member
  constructor
  case declared =>
    obtain ⟨declarations, kinds⟩ :=
      layOutFields_declarations (ClassDefinition.layOutFields_of_build built)
    refine ⟨definition, built, ?_, kinds field member⟩
    rw [← declarations, List.getElem?_map, declared, Option.map_some]
  case slot_lt => exact (List.getElem?_eq_some_iff.1 laidOut).1
  case slot_ne =>
    intro other another atOther different sameStorage sameSlot
    exact different
      (ClassDefinition.position_eq_of_slot_eq built atOther declared sameStorage sameSlot)
  case resolve_iff => exact resolve_eq_iff built declared
  case cell_kind =>
    intro receiver place reached later
    have reachedLater := BoundField.place_of_grows laidOut (sound.after later).2 reached
    exact ⟨reachedLater, Heap.exists_cell (BoundField.kindAt?_place laidOut reachedLater)⟩
  case get =>
    intro receiver ready
    have reached : ∃ place,
        BoundField.place ⟨owner, field⟩ site.heap receiver = .ok place := by
      simp only [BoundField.place_eq_ok_iff]
      cases storage : BoundField.isStatic ⟨owner, field⟩ with
      | true => exact ⟨_, .inl ⟨rfl, rfl⟩⟩
      | false =>
        rcases ready with static | ⟨object, same, sameClass⟩
        · exact absurd static (by simpa [BoundField.isStatic, HostField.isStatic] using storage)
        · exact ⟨_, .inr ⟨rfl, object, same, sameClass, rfl⟩⟩
    obtain ⟨place, reached⟩ := reached
    obtain ⟨cell, -, sameKind, read⟩ := sound.get_eq atNumber declared reached
    refine ⟨cell.content, read, sameKind ▸ cell.fits, fun reference => ?_⟩
    have fits := cell.fits
    rw [sameKind, reference] at fits
    exact Value.fits_reference fits
  case write =>
    intro receiver access _ _ _ _ _ _ atOther otherDeclared reached apart
    exact sound.unwritten atNumber declared receiver access atOther otherDeclared reached apart

end Field

/-- On every site that definitions, creations and accesses lead to, each declaration of each class
has cells of its own, which keep its kind for ever. -/
theorem stores_after (heap : Heap) (requests : List Request) {number position : Nat}
    {owner : HostClass} {field : HostField}
    (defined : (after { heap } requests).classes[number]? = some owner)
    (declared : owner.layout.fields[position]? = some field) :
    (after { heap } requests).Stores number owner position field :=
  ((sound_of_no_classes heap).after requests).1.stores defined declared

/-- A static field between instance fields, two of which are declared alike. -/
def pair : ClassDefinition where
  name := "demo.Pair"
  fields := [⟨"next", "Ldemo.Pair;", {}⟩, ⟨"made", "J", { isStatic := true }⟩, ⟨"x", "I", {}⟩,
    ⟨"x", "I", {}⟩]

/-- Two classes of the same definition, an instance of the second, and writes to both. -/
def pairing : List Request :=
  [.define pair, .define pair, .create 1 none,
    .access 1 "x" "I" (some ⟨0⟩) (.set .plain (.int 7)),
    .access 0 "made" "J" none (.exchange (.long 0) (.long 1))]

def pairClass (identity : Nat) : HostClass :=
  ⟨⟨identity, "demo.Pair", false,
    [⟨"next", "Ldemo.Pair;", .reference, {}, 0⟩,
      ⟨"made", "J", .primitive .long, { isStatic := true }, 0⟩,
      ⟨"x", "I", .primitive .int, {}, 1⟩, ⟨"x", "I", .primitive .int, {}, 2⟩]⟩, [], []⟩

theorem pairing_second_x :
    (after { heap := {} } pairing).classes[1]? = some (pairClass 5) ∧
      (pairClass 5).layout.fields[3]? = some ⟨"x", "I", .primitive .int, {}, 2⟩ ∧
      BoundField.resolve (pairClass 5) "x" "I" ≠
        .ok ⟨pairClass 5, ⟨"x", "I", .primitive .int, {}, 2⟩⟩ ∧
      ∃ value, (∀ strategy, (BoundField.get ⟨pairClass 5, ⟨"x", "I", .primitive .int, {}, 2⟩⟩
          strategy (some ⟨0⟩)).run (after { heap := {} } pairing).heap =
            (.ok value, (after { heap := {} } pairing).heap)) ∧
        value.fits (.primitive .int) = true := by
  have defined : (after { heap := {} } pairing).classes[1]? = some (pairClass 5) := rfl
  have declared : (pairClass 5).layout.fields[3]? = some ⟨"x", "I", .primitive .int, {}, 2⟩ := rfl
  have stores := stores_after {} pairing defined declared
  obtain ⟨value, read, fits, -⟩ := stores.get (some ⟨0⟩) (.inr ⟨⟨0⟩, rfl, rfl⟩)
  refine ⟨defined, declared, fun found => ?_, value, read, fits⟩
  exact stores.resolve_iff.1 found 2 _ rfl (by decide) ⟨rfl, rfl⟩

end Site

end GuestBridge
