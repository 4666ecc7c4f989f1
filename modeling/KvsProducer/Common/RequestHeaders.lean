import KvsProducer.Common.RequestInfo
import KvsProducer.Lib.TransitionSystem

/-!
# The header objects of a request

The list of a `RequestInfo` refers to headers that are allocated and freed.
Here the three operations work on the objects: whatever reads or frees a
header that was freed before is undefined.  `freeRequestInfo` frees the headers
with `removeRequestHeaders`.
-/

namespace KvsProducer

namespace Common

open TransitionSystem StableInsertion

abbrev HeaderId := Nat

structure HeaderObject where
  header : RequestHeader
  live : Bool
  deriving DecidableEq, Repr

/-- `pRequestHeaders` with the objects that were ever allocated for it; those
from `allocated` on are unused. -/
structure HeaderStore where
  objects : HeaderId → Option HeaderObject
  allocated : Nat
  listed : List HeaderId

def HeaderStore.initial : HeaderStore :=
  { objects := fun _ => none
    allocated := 0
    listed := [] }

inductive HeaderCall where
  | set (memory : HeaderMemory) (name value : Option SizedString)
  | remove (name : Option Bytes)
  | removeAll
  deriving DecidableEq, Repr

namespace HeaderStore

/-- The header of an object that is not freed. -/
def header (store : HeaderStore) (id : HeaderId) : Option RequestHeader :=
  match store.objects id with
  | some object => if object.live then some object.header else none
  | none => none

/-- The headers that a list refers to, with their identifiers. -/
def entriesOf (store : HeaderStore) (ids : List HeaderId) :
    List (RequestHeader × HeaderId) :=
  ids.filterMap fun id => (store.header id).map fun header => (header, id)

def headers (store : HeaderStore) : List RequestHeader :=
  (store.entriesOf store.listed).map Prod.fst

@[simps] def allocate (store : HeaderStore) (header : RequestHeader) :
    HeaderStore :=
  { store with
    objects :=
      Function.update store.objects store.allocated
        (some { header := header, live := true })
    allocated := store.allocated + 1 }

@[simps] def release (store : HeaderStore) (id : HeaderId)
    (header : RequestHeader) : HeaderStore :=
  { store with
    objects :=
      Function.update store.objects id
        (some { header := header, live := false }) }

/-- `MEMFREE` -/
def free (store : HeaderStore) (id : HeaderId) : Option HeaderStore :=
  (store.header id).map (store.release id)

/-- The loop of `setRequestHeader`: the list with the new header in it. -/
def insertHeader (store : HeaderStore) (new : RequestHeader) (id : HeaderId) :
    List HeaderId → Option (List HeaderId)
  | [] => some [id]
  | current :: rest =>
      match store.header current with
      | none => none
      | some header =>
          if strcmpi header.name new.name = .gt then
            some (id :: current :: rest)
          else (store.insertHeader new id rest).map (current :: ·)

def setRequestHeader (store : HeaderStore) (memory : HeaderMemory)
    (name value : Option SizedString) :
    Option (Except ErrorCode Unit × HeaderStore) :=
  if name.isNone ∨ value.isNone then some (.error .nullArg, store)
  else if store.listed.length < MAX_REQUEST_HEADER_COUNT then
    match createRequestHeader memory.header name value with
    | .error status => some (.error status, store)
    | .ok header =>
        let created := store.allocate header
        match created.insertHeader header store.allocated store.listed with
        | none => none
        | some listed =>
            if memory.node then some (.ok (), { created with listed := listed })
            else
              (created.free store.allocated).map fun freed =>
                (.error .notEnoughMemory, freed)
  else some (.error .maxRequestHeaderCount, store)

/-- The loop of `removeRequestHeader`: the list without the first header that
matches, and the last header that it looked at. -/
def deleteHeader (store : HeaderStore) (name : Bytes)
    (pCurrentHeader : Option HeaderId) :
    List HeaderId → Option (List HeaderId × Option HeaderId)
  | [] => some ([], pCurrentHeader)
  | current :: rest =>
      match store.header current with
      | none => none
      | some header =>
          if strcmpi header.name name = .eq then some (rest, some current)
          else
            (store.deleteHeader name (some current) rest).map
              fun (listed, last) => (current :: listed, last)

/-- The cleanup frees the header that the loop looked at last, whether it
matches or not. -/
def removeRequestHeader (store : HeaderStore) (name : Option Bytes) :
    Option (Except ErrorCode Unit × HeaderStore) :=
  match name with
  | none => some (.error .nullArg, store)
  | some name =>
      match store.deleteHeader name none store.listed with
      | none => none
      | some (listed, none) => some (.ok (), { store with listed := listed })
      | some (listed, some last) =>
          (({ store with listed := listed } : HeaderStore).free last).map
            fun freed => (.ok (), freed)

def freeHeaders : HeaderStore → List HeaderId → Option HeaderStore
  | store, [] => some { store with listed := [] }
  | store, id :: rest =>
      (store.free id).bind fun freed => freed.freeHeaders rest

def removeRequestHeaders (store : HeaderStore) :
    Option (Except ErrorCode Unit × HeaderStore) :=
  (store.freeHeaders store.listed).map fun freed => (.ok (), freed)

def perform (store : HeaderStore) :
    HeaderCall → Option (Except ErrorCode Unit × HeaderStore)
  | .set memory name value => store.setRequestHeader memory name value
  | .remove name => store.removeRequestHeader name
  | .removeAll => store.removeRequestHeaders

def next (store : HeaderStore) (call : HeaderCall) : Option HeaderStore :=
  (store.perform call).map Prod.snd

/-- The order of the list, in which two entries may be equal. -/
def EntryLe (first second : RequestHeader × HeaderId) : Prop :=
  first.1.NameLe second.1

instance : DecidableRel EntryLe := fun first second =>
  inferInstanceAs (Decidable (first.1.NameLe second.1))

instance : Std.Total EntryLe where
  total _ _ := Std.Total.total (r := RequestHeader.NameLe) _ _

instance : IsTrans (RequestHeader × HeaderId) EntryLe where
  trans _ second _ before behind :=
    IsTrans.trans (r := RequestHeader.NameLe) _ second.1 _ before behind

/-- Of two entries with equal names the one that was allocated first stands
first. -/
def EntryBefore (first second : RequestHeader × HeaderId) : Prop :=
  EntryLe first second ∧ (EntryLe second first → first.2 < second.2)

/-- The objects of the list are those that are not freed, and the list is
sorted by name, with equal names in the order of their allocation. -/
structure Owned (store : HeaderStore) : Prop where
  known : ∀ id, (store.objects id).isSome ↔ id < store.allocated
  live : ∀ id, (store.header id).isSome ↔ id ∈ store.listed
  once : store.listed.Nodup
  sorted : (store.entriesOf store.listed).Pairwise EntryBefore

theorem initial_owned : initial.Owned := by
  constructor <;> simp [initial, header, entriesOf]

variable {store after : HeaderStore} {id : HeaderId} {ids : List HeaderId}

theorem header_eq_some {header : RequestHeader} :
    store.header id = some header ↔
      store.objects id = some { header := header, live := true } := by
  unfold HeaderStore.header
  cases store.objects id with
  | none => simp
  | some object =>
      obtain ⟨stored, live⟩ := object
      cases live <;> simp

theorem entriesOf_cons {header : RequestHeader}
    (found : store.header id = some header) :
    store.entriesOf (id :: ids) = (header, id) :: store.entriesOf ids := by
  simp [entriesOf, found]

@[simp] theorem entriesOf_append {front back : List HeaderId} :
    store.entriesOf (front ++ back) =
      store.entriesOf front ++ store.entriesOf back := by
  simp [entriesOf]

theorem entriesOf_congr
    (same : ∀ id ∈ ids, after.header id = store.header id) :
    after.entriesOf ids = store.entriesOf ids := by
  apply List.filterMap_congr
  intro id member
  rw [same id member]

theorem id_mem_of_entry {entry : RequestHeader × HeaderId}
    (member : entry ∈ store.entriesOf ids) : entry.2 ∈ ids := by
  obtain ⟨id, listed, found⟩ := List.mem_filterMap.mp member
  obtain ⟨header, -, rfl⟩ := Option.map_eq_some_iff.mp found
  exact listed

/-- What the loop of `setRequestHeader` does with a list of live headers. -/
theorem insertHeader_spec (new : RequestHeader) (id : HeaderId)
    (live : ∀ current ∈ ids, (store.header current).isSome) :
    ∃ front back, ids = front ++ back ∧
      store.insertHeader new id ids = some (front ++ id :: back) ∧
      insertAfter EntryLe (new, id) (store.entriesOf ids) =
        store.entriesOf front ++ (new, id) :: store.entriesOf back := by
  induction ids with
  | nil => exact ⟨[], [], rfl, rfl, rfl⟩
  | cons current rest induction =>
      obtain ⟨header, found⟩ :=
        Option.isSome_iff_exists.mp (live current List.mem_cons_self)
      by_cases greater : strcmpi header.name new.name = .gt
      · refine ⟨[], current :: rest, rfl, ?_, ?_⟩
        · simp [insertHeader, found, greater]
        · rw [entriesOf_cons found]
          exact insertAfter_cons_of_not_le _ _ fun le => le greater
      · obtain ⟨front, back, split, inserted, sorted⟩ := induction
          fun other member => live other (List.mem_cons_of_mem _ member)
        refine ⟨current :: front, back, by rw [split]; rfl, ?_, ?_⟩
        · simp [insertHeader, found, greater, inserted]
        · have le : EntryLe (header, current) (new, id) := greater
          rw [entriesOf_cons found, entriesOf_cons found,
            insertAfter_cons_of_le _ _ le, sorted]
          rfl

/-- What the loop of `removeRequestHeader` does with a list of live headers. -/
theorem deleteHeader_spec (name : Bytes) (pCurrentHeader : Option HeaderId)
    (live : ∀ current ∈ ids, (store.header current).isSome) :
    (∃ front current back header, ids = front ++ current :: back ∧
      store.header current = some header ∧
      strcmpi header.name name = .eq ∧
      (∀ other ∈ store.entriesOf front, strcmpi other.1.name name ≠ .eq) ∧
      store.deleteHeader name pCurrentHeader ids =
        some (front ++ back, some current)) ∨
    (∀ other ∈ store.entriesOf ids, strcmpi other.1.name name ≠ .eq) ∧
      store.deleteHeader name pCurrentHeader ids =
        some (ids, ids.getLast?.or pCurrentHeader) := by
  induction ids generalizing pCurrentHeader with
  | nil => exact .inr ⟨by simp [entriesOf], rfl⟩
  | cons current rest induction =>
      obtain ⟨header, found⟩ :=
        Option.isSome_iff_exists.mp (live current List.mem_cons_self)
      by_cases matching : strcmpi header.name name = .eq
      · left
        refine ⟨[], current, rest, header, rfl, found, matching,
          by simp [entriesOf], ?_⟩
        simp [deleteHeader, found, matching]
      · rcases induction (some current)
          fun other member => live other (List.mem_cons_of_mem _ member) with
          ⟨front, removed, back, other, split, foundOther, equal, before,
            deleted⟩ | ⟨absent, kept⟩
        · left
          refine ⟨current :: front, removed, back, other, by rw [split]; rfl,
            foundOther, equal, ?_, ?_⟩
          · rw [entriesOf_cons found]
            exact List.forall_mem_cons.mpr ⟨matching, before⟩
          · simp [deleteHeader, found, matching, deleted]
        · right
          constructor
          · rw [entriesOf_cons found]
            exact List.forall_mem_cons.mpr ⟨matching, absent⟩
          · simp only [deleteHeader, found, matching, if_false, kept,
              Option.map_some, List.getLast?_cons]
            cases rest.getLast? <;> rfl

theorem free_spec {header : RequestHeader}
    (found : store.header id = some header) :
    ∃ freed, store.free id = some freed ∧ freed.listed = store.listed ∧
      freed.allocated = store.allocated ∧ freed.header id = none ∧
      (∀ other, (freed.objects other).isSome ↔
        (store.objects other).isSome) ∧
      ∀ other, other ≠ id → freed.objects other = store.objects other := by
  refine ⟨store.release id header, by simp [free, found], rfl, rfl, ?_, ?_,
    ?_⟩
  · simp [HeaderStore.header]
  · intro other
    by_cases same : other = id
    · simp [same, header_eq_some.mp found]
    · simp [same]
  · intro other different
    simp [different]

theorem header_congr (same : after.objects id = store.objects id) :
    after.header id = store.header id := by
  simp only [HeaderStore.header, same]

/-- The objects that there were are as they were. -/
def Keeps (store after : HeaderStore) : Prop :=
  ∀ id, id < store.allocated → after.objects id = store.objects id

/-- One header is added, with the name and the value of the arguments. -/
def Adds (store after : HeaderStore) (name value : SizedString) : Prop :=
  ∃ front back header, store.listed = front ++ back ∧
    after.listed = front ++ store.allocated :: back ∧
    after.header store.allocated = some header ∧
    header.name = name.value ∧ header.value = value.value ∧
    store.Keeps after

/-- A call that succeeds adds a header, and one that fails leaves the list
alone. -/
def Sets (store after : HeaderStore) (name value : Option SizedString) :
    Except ErrorCode Unit → Prop
  | .ok () => ∃ givenName givenValue, name = some givenName ∧
      value = some givenValue ∧ store.Adds after givenName givenValue
  | .error _ => after.listed = store.listed ∧ store.Keeps after

/-- The first header with the name is taken out of the list and freed, and
nothing else. -/
def Deletes (store after : HeaderStore) (name : Bytes) : Prop :=
  ∃ front id back header, store.listed = front ++ id :: back ∧
    store.header id = some header ∧ strcmpi header.name name = .eq ∧
    (∀ other ∈ store.entriesOf front, strcmpi other.1.name name ≠ .eq) ∧
    after.listed = front ++ back ∧ after.header id = none ∧
    ∀ other, other ≠ id → after.objects other = store.objects other

/-- No header in the list has the name. -/
def Absent (store : HeaderStore) (name : Bytes) : Prop :=
  ∀ header ∈ store.headers, strcmpi header.name name ≠ .eq

instance (store : HeaderStore) (name : Bytes) :
    Decidable (store.Absent name) :=
  inferInstanceAs (Decidable (∀ _ ∈ _, _))

/-- What a call does to the headers. -/
def Behaves (store : HeaderStore) : HeaderCall → Prop
  | .set memory name value => ∃ result after,
      store.setRequestHeader memory name value = some (result, after) ∧
        store.Sets after name value result
  | .remove none =>
      store.removeRequestHeader none = some (.error .nullArg, store)
  | .remove (some name) => ∃ after,
      store.removeRequestHeader (some name) = some (.ok (), after) ∧
        (store.Deletes after name ∨ store.Absent name ∧ after = store)
  | .removeAll => ∃ after,
      store.removeRequestHeaders = some (.ok (), after) ∧
        after.listed = [] ∧
        ∀ id, id < store.allocated → after.header id = none

/-- Headers that are removed by name are there, unless there are none. -/
def RemovesPresent (store : HeaderStore) : HeaderCall → Prop
  | .remove (some name) => store.Absent name → store.listed = []
  | _ => True

instance (store : HeaderStore) (call : HeaderCall) :
    Decidable (store.RemovesPresent call) :=
  match call with
  | .set _ _ _ => .isTrue trivial
  | .remove none => .isTrue trivial
  | .remove (some name) =>
      inferInstanceAs (Decidable (store.Absent name → store.listed = []))
  | .removeAll => .isTrue trivial

theorem Owned.live_of_listed (owned : store.Owned) :
    ∀ id ∈ store.listed, (store.header id).isSome :=
  fun id member => (owned.live id).mpr member

theorem Owned.listed_lt (owned : store.Owned)
    (member : id ∈ store.listed) : id < store.allocated := by
  obtain ⟨header, found⟩ :=
    Option.isSome_iff_exists.mp (owned.live_of_listed id member)
  apply (owned.known id).mp
  simp [header_eq_some.mp found]

theorem Owned.fresh (owned : store.Owned) :
    store.objects store.allocated = none := by
  have unknown := mt (owned.known store.allocated).mp (Nat.lt_irrefl _)
  simpa using unknown

theorem header_allocate (header : RequestHeader) :
    (store.allocate header).header id =
      if id = store.allocated then some header else store.header id := by
  by_cases new : id = store.allocated <;>
    simp [HeaderStore.header, new]

theorem Owned.allocated_known (owned : store.Owned)
    {header : RequestHeader} :
    ((store.allocate header).objects id).isSome ↔ id < store.allocated + 1 := by
  by_cases new : id = store.allocated
  · simp [new]
  · simp only [allocate_objects, Function.update_of_ne new, owned.known]
    exact ⟨Nat.lt_succ_of_lt,
      fun lt => Nat.lt_of_le_of_ne (Nat.le_of_lt_succ lt) new⟩

theorem Owned.allocate_listed (owned : store.Owned) (header : RequestHeader) :
    ∀ id ∈ store.listed,
      (store.allocate header).header id = store.header id := by
  intro id member
  rw [header_allocate, if_neg (Nat.ne_of_lt (owned.listed_lt member))]

/-- What `setRequestHeader` leaves when it adds a header. -/
structure Inserted (store after : HeaderStore) (header : RequestHeader) :
    Prop where
  objects : after.objects = (store.allocate header).objects
  allocated : after.allocated = store.allocated + 1
  listed : ∃ front back, store.listed = front ++ back ∧
    after.listed = front ++ store.allocated :: back
  entries : after.entriesOf after.listed =
    insertAfter EntryLe (header, store.allocated)
      (store.entriesOf store.listed)

theorem Inserted.owned {header : RequestHeader}
    (inserted : Inserted store after header) (owned : store.Owned) :
    after.Owned := by
  obtain ⟨objects, allocated, ⟨front, back, split, listed⟩, entries⟩ := inserted
  have members (id : HeaderId) :
      id ∈ after.listed ↔ id = store.allocated ∨ id ∈ store.listed := by
    rw [listed, split]
    simp only [List.mem_append, List.mem_cons]
    tauto
  constructor
  case known =>
      intro id
      rw [objects, allocated, owned.allocated_known]
  case live =>
      intro id
      rw [members, header_congr (congrFun objects id), header_allocate]
      split
      · simp [*]
      · simp [*, owned.live]
  case once =>
      rw [listed]
      apply (List.perm_middle.nodup_iff).mpr
      rw [List.nodup_cons, ← split]
      exact ⟨fun member => Nat.lt_irrefl _ (owned.listed_lt member),
        owned.once⟩
  case sorted =>
      rw [entries]
      apply pairwise_insertAfter EntryLe _ owned.sorted
      · intro entry member le
        refine ⟨le, fun _ => ?_⟩
        exact owned.listed_lt (id_mem_of_entry member)
      · intro entry member greater
        exact ⟨(Std.Total.total entry _).resolve_left greater,
          fun le => (greater le).elim⟩
      · exact owned.sorted.imp fun before => before.1

/-- What `setRequestHeader` leaves when it has no memory for the node: the new
header is freed again. -/
structure Discarded (store after : HeaderStore) : Prop where
  keeps : store.Keeps after
  unlisted : after.header store.allocated = none
  known : ∀ id, (after.objects id).isSome ↔ id < store.allocated + 1
  allocated : after.allocated = store.allocated + 1
  listed : after.listed = store.listed

theorem Discarded.owned (discarded : Discarded store after)
    (owned : store.Owned) : after.Owned := by
  obtain ⟨keeps, unlisted, known, allocated, listed⟩ := discarded
  have same (id : HeaderId) (member : id ∈ store.listed) :
      after.header id = store.header id :=
    header_congr (keeps id (owned.listed_lt member))
  constructor
  case known => simpa [allocated] using known
  case live =>
      intro id
      rw [listed]
      rcases Nat.lt_trichotomy id store.allocated with old | new | unused
      · rw [header_congr (keeps id old), owned.live]
      · subst new
        simp only [unlisted, Option.isSome_none, Bool.false_eq_true, false_iff]
        exact fun member => Nat.lt_irrefl _ (owned.listed_lt member)
      · constructor
        · intro found
          obtain ⟨header, found⟩ := Option.isSome_iff_exists.mp found
          have bound := (known id).mp (by simp [header_eq_some.mp found])
          exact (Nat.not_lt_of_le unused bound).elim
        · intro member
          exact (Nat.lt_asymm unused (owned.listed_lt member)).elim
  case once => rw [listed]; exact owned.once
  case sorted =>
      rw [listed, entriesOf_congr same]
      exact owned.sorted

theorem Inserted.headers_eq {header : RequestHeader}
    (inserted : Inserted store after header) :
    after.headers = insertAfter RequestHeader.NameLe header store.headers := by
  rw [headers, inserted.entries]
  exact List.map_orderedInsert _ _ _ _ _ (fun _ _ => Iff.rfl)
    (fun _ _ => Iff.rfl)

theorem Owned.length_headers (owned : store.Owned) :
    store.headers.length = store.listed.length := by
  rw [headers, List.length_map, entriesOf, List.length_filterMap_eq_countP,
    List.countP_eq_length]
  intro id member
  simpa using owned.live_of_listed id member

/-- What `setRequestHeader` can do, and what it does to the headers of the
list. -/
inductive Set (store : HeaderStore) (memory : HeaderMemory)
    (name value : Option SizedString) :
    Except ErrorCode Unit → HeaderStore → Prop where
  | reject {status : ErrorCode}
      (rejected : Common.setRequestHeader memory store.headers name value =
        .error status) :
      Set store memory name value (.error status) store
  | discard {after : HeaderStore} (discarded : Discarded store after)
      (rejected : Common.setRequestHeader memory store.headers name value =
        .error .notEnoughMemory) :
      Set store memory name value (.error .notEnoughMemory) after
  | insert {after : HeaderStore} {header : RequestHeader}
      (created : createRequestHeader memory.header name value = .ok header)
      (inserted : Inserted store after header)
      (accepted : Common.setRequestHeader memory store.headers name value =
        .ok after.headers) :
      Set store memory name value (.ok ()) after

theorem Owned.setRequestHeader_cases (owned : store.Owned)
    (memory : HeaderMemory) (name value : Option SizedString) :
    ∃ result after,
      store.setRequestHeader memory name value = some (result, after) ∧
        Set store memory name value result after := by
  unfold setRequestHeader
  split
  · rename_i missing
    refine ⟨_, _, rfl, .reject ?_⟩
    rw [Common.setRequestHeader, if_pos missing]
  rename_i given
  split
  · rename_i counted
    have room : store.headers.length < MAX_REQUEST_HEADER_COUNT := by
      rwa [owned.length_headers]
    cases created : createRequestHeader memory.header name value with
    | error status =>
        refine ⟨_, _, rfl, .reject ?_⟩
        rw [Common.setRequestHeader, if_neg given, if_pos room, created]
        rfl
    | ok header =>
        have same := owned.allocate_listed header
        have live : ∀ id ∈ store.listed,
            ((store.allocate header).header id).isSome := by
          intro id member
          rw [same id member]
          exact owned.live_of_listed id member
        obtain ⟨front, back, split, inserts, sorted⟩ :=
          insertHeader_spec header store.allocated live
        have found :
            (store.allocate header).header store.allocated = some header := by
          simp [header_allocate]
        simp only [inserts]
        split
        · rename_i node
          have inserted : Inserted store
              { store.allocate header with
                listed := front ++ store.allocated :: back } header := by
            refine ⟨rfl, rfl, ⟨front, back, split, rfl⟩, ?_⟩
            rw [← entriesOf_congr same, sorted, ← entriesOf_cons found,
              ← entriesOf_append]
            rfl
          refine ⟨_, _, rfl, .insert created inserted ?_⟩
          rw [Common.setRequestHeader, if_neg given, if_pos room, created,
            inserted.headers_eq]
          exact if_pos node
        · rename_i noNode
          obtain ⟨freed, frees, listed, allocated, unlisted, known, keeps⟩ :=
            free_spec found
          refine ⟨_, _, by rw [frees]; rfl, .discard ⟨?_, unlisted, ?_,
            allocated, listed⟩ ?_⟩
          · intro id old
            rw [keeps id (Nat.ne_of_lt old)]
            simp [Nat.ne_of_lt old]
          · intro id
            rw [known, owned.allocated_known]
          · rw [Common.setRequestHeader, if_neg given, if_pos room, created]
            exact if_neg noNode
  · rename_i full
    refine ⟨_, _, rfl, .reject ?_⟩
    rw [Common.setRequestHeader, if_neg given, owned.length_headers,
      if_neg full]

/-- On the headers of the list the operation on the objects is the function
`setRequestHeader`. -/
theorem Owned.setRequestHeader_refines (owned : store.Owned)
    (memory : HeaderMemory) (name value : Option SizedString) :
    (store.setRequestHeader memory name value).map
        (fun (result, after) => result.map fun _ => after.headers) =
      some (Common.setRequestHeader memory store.headers name value) := by
  obtain ⟨result, after, sets, set⟩ :=
    owned.setRequestHeader_cases memory name value
  rw [sets]
  cases set with
  | reject rejected => exact congrArg some rejected.symm
  | discard discarded rejected => exact congrArg some rejected.symm
  | insert created inserted accepted => exact congrArg some accepted.symm

/-- What `removeRequestHeader` leaves when it frees a header. -/
structure Released (store after : HeaderStore) (id : HeaderId) : Prop where
  allocated : after.allocated = store.allocated
  freed : after.header id = none
  known : ∀ other, (after.objects other).isSome ↔
    (store.objects other).isSome
  keeps : ∀ other, other ≠ id → after.objects other = store.objects other

theorem Released.owned {front back : List HeaderId}
    (released : Released store after id) (owned : store.Owned)
    (split : store.listed = front ++ id :: back)
    (listed : after.listed = front ++ back) : after.Owned := by
  obtain ⟨allocated, freed, known, keeps⟩ := released
  have once := owned.once
  rw [split, List.perm_middle.nodup_iff, List.nodup_cons] at once
  obtain ⟨taken, onceRest⟩ := once
  have same (other : HeaderId) (different : other ≠ id) :
      after.header other = store.header other :=
    header_congr (keeps other different)
  constructor
  case known => simpa [known, allocated] using owned.known
  case live =>
      intro other
      rw [listed]
      by_cases removed : other = id
      · subst removed
        simp only [freed, Option.isSome_none, Bool.false_eq_true, false_iff]
        exact taken
      · rw [same other removed, owned.live, split]
        simp [removed]
  case once => rwa [listed]
  case sorted =>
      have rest : after.entriesOf (front ++ back) =
          store.entriesOf (front ++ back) := by
        apply entriesOf_congr
        intro other member
        apply same
        rintro rfl
        exact taken member
      have sublist : (front ++ back).Sublist store.listed := by
        rw [split]
        exact (List.Sublist.refl front).append (List.sublist_cons_self id back)
      rw [listed, rest]
      exact owned.sorted.sublist (sublist.filterMap _)

/-- What `removeRequestHeader` can do with a name. -/
inductive Remove (store : HeaderStore) (name : Bytes) : HeaderStore → Prop where
  | delete {after : HeaderStore} {front back : List HeaderId} {id : HeaderId}
      {header : RequestHeader}
      (split : store.listed = front ++ id :: back)
      (found : store.header id = some header)
      (matching : strcmpi header.name name = .eq)
      (first : ∀ other ∈ store.entriesOf front,
        strcmpi other.1.name name ≠ .eq)
      (listed : after.listed = front ++ back)
      (released : Released store after id) :
      Remove store name after
  | empty (nothing : store.listed = []) : Remove store name store
  | freeListed {after : HeaderStore} {id : HeaderId}
      (absent : store.Absent name)
      (member : id ∈ store.listed)
      (listed : after.listed = store.listed)
      (freed : after.header id = none) :
      Remove store name after

theorem Owned.removeRequestHeader_cases (owned : store.Owned) (name : Bytes) :
    ∃ after, store.removeRequestHeader (some name) = some (.ok (), after) ∧
      Remove store name after := by
  rcases deleteHeader_spec name none owned.live_of_listed with
    ⟨front, id, back, header, split, found, matching, first, deleted⟩ |
      ⟨absent, kept⟩
  · have foundAfter : ({ store with listed := front ++ back } :
        HeaderStore).header id = some header := found
    obtain ⟨freed, frees, listed, allocated, unlisted, known, keeps⟩ :=
      free_spec foundAfter
    refine ⟨freed, by simp [removeRequestHeader, deleted, frees],
      .delete split found matching first listed
        ⟨allocated, unlisted, known, keeps⟩⟩
  · cases last : store.listed.getLast? with
    | none =>
        have nothing := List.getLast?_eq_none_iff.mp last
        refine ⟨store, ?_, .empty nothing⟩
        simp [removeRequestHeader, kept, last]
    | some id =>
        have member := List.mem_of_getLast? last
        obtain ⟨header, found⟩ :=
          Option.isSome_iff_exists.mp (owned.live_of_listed id member)
        obtain ⟨freed, frees, listed, -, unlisted, -, -⟩ := free_spec found
        refine ⟨freed, ?_, .freeListed ?_ member listed unlisted⟩
        · simp [removeRequestHeader, kept, last, frees]
        · intro header listed
          obtain ⟨entry, entered, rfl⟩ := List.mem_map.mp listed
          exact absent entry entered

theorem header_mem_headers {front back : List HeaderId}
    {header : RequestHeader} (split : store.listed = front ++ id :: back)
    (found : store.header id = some header) : header ∈ store.headers := by
  rw [headers, split, entriesOf_append, entriesOf_cons found]
  simp

/-- The cleanup of an absent name frees a header that stays in the list. -/
theorem Owned.not_behaves_of_absent (owned : store.Owned) {name : Bytes}
    (absent : store.Absent name) (nonempty : store.listed ≠ []) :
    ¬ store.Behaves (.remove (some name)) := by
  rintro ⟨after, removes, deletes | ⟨-, unchanged⟩⟩
  · obtain ⟨front, id, back, header, split, found, matching, -⟩ := deletes
    exact absent header (header_mem_headers split found) matching
  · obtain ⟨target, removesTarget, removed⟩ :=
      owned.removeRequestHeader_cases name
    rw [removes] at removesTarget
    cases removesTarget
    subst unchanged
    cases removed with
    | delete split found matching first listed released =>
        exact absent _ (header_mem_headers split found) matching
    | empty nothing => exact nonempty nothing
    | freeListed absent member listed freed =>
        have live := owned.live_of_listed _ member
        simp [freed] at live

theorem freeHeaders_spec (live : ∀ id ∈ ids, (store.header id).isSome)
    (once : ids.Nodup) :
    ∃ freed, store.freeHeaders ids = some freed ∧ freed.listed = [] ∧
      freed.allocated = store.allocated ∧
      (∀ id ∈ ids, freed.header id = none) ∧
      (∀ id, (freed.objects id).isSome ↔ (store.objects id).isSome) ∧
      ∀ id, id ∉ ids → freed.objects id = store.objects id := by
  induction ids generalizing store with
  | nil => exact ⟨_, rfl, rfl, rfl, by simp, fun _ => Iff.rfl, fun _ _ => rfl⟩
  | cons id rest induction =>
      obtain ⟨taken, onceRest⟩ := List.nodup_cons.mp once
      obtain ⟨header, found⟩ :=
        Option.isSome_iff_exists.mp (live id List.mem_cons_self)
      obtain ⟨first, frees, -, allocated, unlisted, known, keeps⟩ :=
        free_spec found
      have liveRest : ∀ other ∈ rest, (first.header other).isSome := by
        intro other member
        have different : other ≠ id := by
          rintro rfl
          exact taken member
        rw [header_congr (keeps other different)]
        exact live other (List.mem_cons_of_mem id member)
      obtain ⟨freed, freesRest, empty, allocatedRest, unlistedRest, knownRest,
        keepsRest⟩ := induction liveRest onceRest
      refine ⟨freed, by simp [freeHeaders, frees, freesRest], empty,
        allocatedRest.trans allocated, ?_, ?_, ?_⟩
      · intro other member
        rcases List.mem_cons.mp member with rfl | later
        · rw [header_congr (keepsRest other taken), unlisted]
        · exact unlistedRest other later
      · intro other
        rw [knownRest, known]
      · intro other absent
        simp only [List.mem_cons, not_or] at absent
        obtain ⟨different, absentRest⟩ := absent
        rw [keepsRest other absentRest, keeps other different]

theorem Set.behaves {memory : HeaderMemory} {name value : Option SizedString}
    {result : Except ErrorCode Unit}
    (set : Set store memory name value result after) :
    store.Sets after name value result := by
  cases set with
  | reject => exact ⟨rfl, fun _ _ => rfl⟩
  | discard discarded => exact ⟨discarded.listed, discarded.keeps⟩
  | @insert _ header created inserted =>
      obtain ⟨name, value, rfl, rfl, sameName, sameValue⟩ :=
        createRequestHeader_eq_ok created
      obtain ⟨front, back, split, listed⟩ := inserted.listed
      refine ⟨name, value, rfl, rfl, front, back, header, split, listed, ?_,
        sameName, sameValue, ?_⟩
      · rw [header_congr (congrFun inserted.objects _), header_allocate,
          if_pos rfl]
      · intro id old
        rw [inserted.objects]
        simp [Nat.ne_of_lt old]

theorem Owned.behaves (owned : store.Owned) {call : HeaderCall}
    (present : store.RemovesPresent call) : store.Behaves call := by
  cases call with
  | set memory name value =>
      obtain ⟨result, after, sets, set⟩ :=
        owned.setRequestHeader_cases memory name value
      exact ⟨result, after, sets, set.behaves⟩
  | remove name =>
      cases name with
      | none => rfl
      | some name =>
          obtain ⟨after, removes, removed⟩ :=
            owned.removeRequestHeader_cases name
          refine ⟨after, removes, ?_⟩
          cases removed with
          | delete split found matching first listed released =>
              exact .inl ⟨_, _, _, _, split, found, matching, first, listed,
                released.freed, released.keeps⟩
          | empty nothing =>
              exact .inr ⟨by simp [Absent, headers, entriesOf, nothing], rfl⟩
          | freeListed absent member listed freed =>
              simp [present absent] at member
  | removeAll =>
      obtain ⟨freed, frees, empty, allocated, unlisted, known, keeps⟩ :=
        freeHeaders_spec owned.live_of_listed owned.once
      refine ⟨freed, by simp [removeRequestHeaders, frees], empty, ?_⟩
      intro id _
      by_cases member : id ∈ store.listed
      · exact unlisted id member
      · rw [header_congr (keeps id member)]
        exact Option.not_isSome_iff_eq_none.mp (mt (owned.live id).mp member)

theorem Owned.behaves_iff (owned : store.Owned) {call : HeaderCall} :
    store.Behaves call ↔ store.RemovesPresent call := by
  constructor
  · intro behaves
    cases call with
    | remove name =>
        cases name with
        | none => trivial
        | some name =>
            intro absent
            by_contra nonempty
            exact owned.not_behaves_of_absent absent nonempty behaves
    | _ => trivial
  · exact owned.behaves

theorem Owned.next (owned : store.Owned) {call : HeaderCall}
    (present : store.RemovesPresent call)
    (step : store.next call = some after) : after.Owned := by
  obtain ⟨⟨result, target⟩, performs, rfl⟩ := Option.map_eq_some_iff.mp step
  cases call with
  | set memory name value =>
      obtain ⟨result, after, sets, set⟩ :=
        owned.setRequestHeader_cases memory name value
      cases sets.symm.trans performs
      cases set with
      | reject => exact owned
      | discard discarded => exact discarded.owned owned
      | insert created inserted => exact inserted.owned owned
  | remove name =>
      cases name with
      | none =>
          cases performs
          exact owned
      | some name =>
          obtain ⟨after, removes, removed⟩ :=
            owned.removeRequestHeader_cases name
          cases removes.symm.trans performs
          cases removed with
          | delete split found matching first listed released =>
              exact released.owned owned split listed
          | empty nothing => exact owned
          | freeListed absent member listed freed =>
              simp [present absent] at member
  | removeAll =>
      obtain ⟨freed, frees, empty, allocated, unlisted, known, keeps⟩ :=
        freeHeaders_spec owned.live_of_listed owned.once
      have performed : store.perform .removeAll = some (.ok (), freed) := by
        simp [perform, removeRequestHeaders, frees]
      cases performed.symm.trans performs
      constructor
      case known => simpa [known, allocated] using owned.known
      case live =>
          intro id
          rw [empty]
          by_cases member : id ∈ store.listed
          · simp [unlisted id member]
          · rw [header_congr (keeps id member), owned.live]
            simp [member]
      case once => simp [empty]
      case sorted => simp [empty, entriesOf]

end HeaderStore

/-- The lists of runs of calls that meet the condition. -/
abbrev HeaderRun (ok : HeaderStore → HeaderCall → Prop)
    (store : HeaderStore) : Prop :=
  Steps HeaderStore.next ok HeaderStore.initial store

/-- The headers in any run of calls in which no absent name is removed from a
list that is not empty, and what the next call does to them. -/
theorem headers_owned {store : HeaderStore}
    (run : HeaderRun HeaderStore.RemovesPresent store) :
    store.Owned ∧ ∀ call, store.Behaves call ↔ store.RemovesPresent call := by
  have owned : store.Owned := by
    apply run.invariant HeaderStore.Owned HeaderStore.initial_owned
    intro before call after owned present step
    exact owned.next present step
  exact ⟨owned, fun _ => owned.behaves_iff⟩

def setText (name value : String) : HeaderCall :=
  .set .available (some (.ofBuffer (bytes name)))
    (some (.ofBuffer (bytes value)))

/-- Two headers of one name, of which the first is removed. -/
def setTwice : List HeaderCall :=
  [setText "b" "1", setText "a" "2", setText "B" "3",
    .remove (some (bytes "b"))]

theorem headers_owned_setTwice :
    let store := stateAfter HeaderStore.next HeaderStore.RemovesPresent
      HeaderStore.initial setTwice
    store.Owned ∧ ∀ call, store.Behaves call ↔ store.RemovesPresent call := by
  have taken : (replay HeaderStore.next HeaderStore.RemovesPresent
      HeaderStore.initial setTwice).isSome = true := by
    decide
  exact headers_owned (steps_stateAfter taken)

/-- The removal of an absent name frees the last header of the list. -/
theorem headers_not_owned :
    ¬ ∀ store, HeaderRun (fun _ _ => True) store →
      store.Owned ∧ ∀ call, store.Behaves call := by
  intro claim
  have taken : (replay HeaderStore.next (fun _ _ => True)
      HeaderStore.initial
      ([setText "a" "1", .remove (some (bytes "b"))] :
        List HeaderCall)).isSome = true := by
    decide
  have listed := ((claim _ (steps_stateAfter taken)).1.live 0).mpr (by decide)
  revert listed
  decide

end Common

end KvsProducer
