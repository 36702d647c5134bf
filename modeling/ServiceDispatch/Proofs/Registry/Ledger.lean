import Mathlib.Data.Finset.Sort
import Mathlib.Data.String.Basic
import ServiceDispatch.Registry

/-!
# The registry as a ledger

A ledger only lists the registrations that were accepted and remembers whether it is closed; every
question is answered from the list. The registry, with its staged adapters, its counts of
collisions, its flag and its frozen copy, answers every sequence of commands as a ledger does.
Several threads at once are not covered.
-/

namespace ServiceDispatch

/-- The registrations of a registry. -/
structure Ledger (α : Type) where
  /-- Keys and adapters that were accepted, oldest first. -/
  accepted : List (String × α)
  /-- Whether registrations have come to an end. -/
  isSealed : Bool

namespace Ledger

variable {α : Type}

/-- The ledger of registrations that were accepted in order. -/
def ofEntries (entries : List (CanonicalKey × α)) : Ledger α :=
  ⟨entries.map fun entry => (entry.1.text, entry.2), false⟩

/-- The adapter of the last registration of a key. -/
def last? (ledger : Ledger α) (key : String) : Option α :=
  (ledger.accepted.reverse.find? fun entry => entry.1 = key).map Prod.snd

/-- How often a key was registered. -/
def times (ledger : Ledger α) (key : String) : Nat := (ledger.accepted.map Prod.fst).count key

/-- The keys that were registered. -/
def keys (ledger : Ledger α) : Finset String := (ledger.accepted.map Prod.fst).toFinset

/-- The keys that were registered more than once. -/
def colliding (ledger : Ledger α) : Finset String :=
  ledger.keys.filter fun key => 1 < ledger.times key

/-- Accepts a registration. -/
def add (ledger : Ledger α) (key : String) (adapter : α) : Ledger α :=
  { ledger with accepted := ledger.accepted ++ [(key, adapter)] }

/-- Carries a command out. -/
def execute (ledger : Ledger α) :
    Registry.Command α → Except Failure (Registry.Answer α) × Ledger α
  | .register key adapter =>
    if ledger.isSealed then (.error (.registrySealed key.text), ledger)
    else
      (.ok (.registered (if key.text ∈ ledger.keys then .replaced else .inserted)),
        ledger.add key.text adapter)
  | .trySeal rejectCollisions =>
    if ledger.isSealed then (.ok .done, ledger)
    else if collide : rejectCollisions ∧ ledger.colliding.Nonempty then
      (.error (.registryCollision (ledger.colliding.min' collide.2)), ledger)
    else (.ok .done, { ledger with isSealed := true })
  | .lookup key =>
    match ledger.last? key with
    | some adapter => (.ok (.adapter adapter), ledger)
    | none => (.error (.registryMiss key), ledger)
  | .contains key => (.ok (.flag (key ∈ ledger.keys)), ledger)
  | .size => (.ok (.count ledger.keys.card), ledger)
  | .keys => (.ok (.texts ledger.keys.sort), ledger)
  | .collisions => (.ok (.texts ledger.colliding.sort), ledger)

/-- Carries commands out in order and answers each of them. -/
def executeAll (ledger : Ledger α) :
    List (Registry.Command α) → List (Except Failure (Registry.Answer α)) × Ledger α
  | [] => ([], ledger)
  | command :: rest =>
    let (answer, next) := ledger.execute command
    let (answers, last) := next.executeAll rest
    (answer :: answers, last)

theorem last?_add (ledger : Ledger α) (key other : String) (adapter : α) :
    (ledger.add key adapter).last? other =
      if key = other then some adapter else ledger.last? other := by
  by_cases same : key = other <;> simp [last?, add, same]

theorem times_add (ledger : Ledger α) (key other : String) (adapter : α) :
    (ledger.add key adapter).times other =
      if key = other then ledger.times other + 1 else ledger.times other := by
  by_cases same : key = other <;> simp [times, add, same]

theorem mem_keys_iff {ledger : Ledger α} {key : String} :
    key ∈ ledger.keys ↔ 0 < ledger.times key := by
  rw [keys, List.mem_toFinset, times, List.count_pos_iff]

theorem mem_colliding_iff {ledger : Ledger α} {key : String} :
    key ∈ ledger.colliding ↔ 1 < ledger.times key := by
  rw [colliding, Finset.mem_filter, mem_keys_iff]
  omega

/-- A key has an adapter exactly if it was registered. -/
theorem isSome_last?_iff {ledger : Ledger α} {key : String} :
    (ledger.last? key).isSome = true ↔ key ∈ ledger.keys := by
  simp [last?, keys]

/-- Where no key was registered twice, every registration is the last one of its key. -/
theorem last?_of_mem {ledger : Ledger α} (distinct : ledger.colliding = ∅) {key : String}
    {adapter : α} (mem : (key, adapter) ∈ ledger.accepted) : ledger.last? key = some adapter := by
  have once : (ledger.accepted.map Prod.fst).Nodup := by
    rw [List.nodup_iff_count_le_one]
    intro other
    have few : ¬ 1 < ledger.times other := by
      rw [← mem_colliding_iff, distinct]
      exact Finset.notMem_empty other
    exact Nat.le_of_not_lt few
  rw [last?]
  cases found : ledger.accepted.reverse.find? fun entry => entry.1 = key with
  | none =>
    have none_left := List.find?_eq_none.mp found (key, adapter) (List.mem_reverse.mpr mem)
    simp at none_left
  | some entry =>
    have same : entry.1 = key := by simpa using List.find?_some found
    have accepted := List.mem_reverse.mp (List.mem_of_find?_eq_some found)
    rw [List.inj_on_of_nodup_map once accepted mem same]
    rfl

end Ledger

theorem notBefore_iff {first second : String} :
    (!(decide (second < first))) = true ↔ first ≤ second := by
  rw [Bool.not_eq_true', decide_eq_false_iff_not, not_lt]

theorem pairwise_sortedTexts (texts : List String) : (sortedTexts texts).Pairwise (· ≤ ·) := by
  refine List.Pairwise.imp notBefore_iff.mp (List.pairwise_mergeSort ?_ ?_ texts)
  · intro a b c ab bc
    exact notBefore_iff.mpr ((notBefore_iff.mp ab).trans (notBefore_iff.mp bc))
  · intro a b
    rw [Bool.or_eq_true, notBefore_iff, notBefore_iff]
    exact le_total a b

/-- The sorted texts of distinct keys are the sorted list of their set. -/
theorem sortedTexts_eq_sort {texts : List String} {set : Finset String} (distinct : texts.Nodup)
    (same : ∀ text, text ∈ texts ↔ text ∈ set) : sortedTexts texts = set.sort := by
  have perm : (sortedTexts texts).Perm texts := List.mergeSort_perm _ _
  have members : (sortedTexts texts).toFinset = set := by
    ext text
    rw [List.mem_toFinset, perm.mem_iff, same]
  rw [← members, eq_comm]
  exact (List.toFinset_sort _ (perm.nodup_iff.mpr distinct)).mpr (pairwise_sortedTexts texts)

variable {α : Type}

/-- A registry whose parts all agree with a ledger. -/
structure Represents (registry : Registry α) (ledger : Ledger α) : Prop where
  /-- The last registration of each key is staged. -/
  staging : ∀ key, registry.staging.get? key = ledger.last? key
  /-- No key is staged twice. -/
  staging_nodup : registry.staging.keys.Nodup
  /-- Every registration of a key but the first one is counted. -/
  repeated : ∀ key, registry.repeated.get? key =
    if 1 < ledger.times key then some (ledger.times key - 1) else none
  /-- No key is counted twice. -/
  repeated_nodup : registry.repeated.keys.Nodup
  /-- Sealing is under way only if it is done. -/
  sealing : registry.sealing = ledger.isSealed
  /-- The frozen copy is what was staged, and nothing is staged afterwards. -/
  snapshot : registry.snapshot = if ledger.isSealed then some registry.staging else none

namespace Represents

variable {registry : Registry α} {ledger : Ledger α}

theorem isSealed_eq (agree : Represents registry ledger) :
    registry.isSealed = ledger.isSealed := by
  rw [Registry.isSealed, agree.snapshot]
  cases ledger.isSealed <;> rfl

/-- Queries answer from what was staged, before sealing and after it. -/
theorem adapters_eq (agree : Represents registry ledger) :
    registry.adapters = registry.staging := by
  rw [Registry.adapters, agree.snapshot]
  cases ledger.isSealed <;> rfl

theorem contains_staging_iff (agree : Represents registry ledger) (key : String) :
    registry.staging.contains key = true ↔ key ∈ ledger.keys := by
  rw [Keyed.contains, agree.staging, Ledger.isSome_last?_iff]

theorem mem_staging_keys_iff (agree : Represents registry ledger) (key : String) :
    key ∈ registry.staging.keys ↔ key ∈ ledger.keys := by
  rw [Keyed.mem_keys_iff, agree.contains_staging_iff]

theorem mem_repeated_keys_iff (agree : Represents registry ledger) (key : String) :
    key ∈ registry.repeated.keys ↔ key ∈ ledger.colliding := by
  rw [Keyed.mem_keys_iff, Keyed.contains, agree.repeated, Ledger.mem_colliding_iff]
  split <;> simp_all

theorem collisions_eq (agree : Represents registry ledger) :
    registry.collisions = ledger.colliding.sort :=
  sortedTexts_eq_sort agree.repeated_nodup agree.mem_repeated_keys_iff

theorem keys_eq (agree : Represents registry ledger) : registry.keys = ledger.keys.sort := by
  rw [Registry.keys, agree.adapters_eq]
  exact sortedTexts_eq_sort agree.staging_nodup agree.mem_staging_keys_iff

theorem size_eq (agree : Represents registry ledger) : registry.size = ledger.keys.card := by
  have same : registry.staging.keys.toFinset = ledger.keys := by
    ext key
    rw [List.mem_toFinset, agree.mem_staging_keys_iff]
  rw [Registry.size, agree.adapters_eq, ← same, List.toFinset_card_of_nodup agree.staging_nodup]
  simp [Keyed.size, Keyed.keys]

/-- The first of the sorted collisions is the smallest colliding key. -/
theorem head?_collisions (agree : Represents registry ledger)
    (collide : ledger.colliding.Nonempty) :
    registry.collisions.head? = some (ledger.colliding.min' collide) := by
  have some_left : 0 < ledger.colliding.sort.length := by simpa using collide.card_pos
  rw [agree.collisions_eq, List.head?_eq_getElem?, List.getElem?_eq_getElem some_left]
  exact congrArg some Finset.sorted_zero_eq_min'

/-- A new registry keeps the ledger without registrations. -/
theorem empty : Represents (Registry.empty : Registry α) ⟨[], false⟩ where
  staging _ := rfl
  staging_nodup := List.nodup_nil
  repeated _ := by simp [Registry.empty, Ledger.times]
  repeated_nodup := List.nodup_nil
  sealing := rfl
  snapshot := rfl

/-- A registration counts as a collision exactly if its key was registered before. -/
theorem repeated_put (agree : Represents registry ledger) (key other : String) (adapter : α) :
    (registry.put key adapter).repeated.get? other =
      if 1 < (ledger.add key adapter).times other then
        some ((ledger.add key adapter).times other - 1)
      else none := by
  have count := agree.repeated other
  have present := agree.contains_staging_iff key
  rw [Ledger.mem_keys_iff] at present
  rw [Registry.put, Ledger.times_add]
  by_cases former : registry.staging.contains key = true
  · have positive := present.mp former
    simp only [former, if_true, Registry.recordCollision, Keyed.get?_insert]
    by_cases same : key = other
    · subst same
      rw [count]
      by_cases again : 1 < ledger.times key
      · simp only [if_pos again, if_true, Option.getD_some, if_pos (Nat.lt_succ_of_lt again)]
        exact congrArg some (by omega)
      · have once : ledger.times key = 1 := by omega
        simp [once]
    · simpa [same] using count
  · have zero : ledger.times key = 0 := by
      have absent := mt present.mpr former
      omega
    simp only [former, Bool.false_eq_true, if_false]
    by_cases same : key = other
    · subst same
      simp [count, zero]
    · simpa [same] using count

/-- Putting an adapter into an open registry is accepting the registration. -/
theorem put (agree : Represents registry ledger) (isOpen : ledger.isSealed = false) (key : String)
    (adapter : α) : Represents (registry.put key adapter) (ledger.add key adapter) where
  staging other := by
    rw [Registry.put, Keyed.get?_insert, Ledger.last?_add, agree.staging]
  staging_nodup := Keyed.keys_insert_nodup agree.staging_nodup key adapter
  repeated other := agree.repeated_put key other adapter
  repeated_nodup := by
    rw [Registry.put]
    dsimp only
    split
    · exact Keyed.keys_insert_nodup agree.repeated_nodup _ _
    · exact agree.repeated_nodup
  sealing := agree.sealing
  snapshot := by
    have frozen := agree.snapshot
    rw [isOpen] at frozen
    simpa [Registry.put, Ledger.add, isOpen] using frozen

/-- A registration is answered as by the ledger and accepted exactly if the ledger accepts it. -/
theorem register (agree : Represents registry ledger) (key : CanonicalKey) (adapter : α) :
    (registry.execute (.register key adapter)).1 = (ledger.execute (.register key adapter)).1 ∧
      Represents (registry.execute (.register key adapter)).2
        (ledger.execute (.register key adapter)).2 := by
  simp only [Registry.execute, Registry.register, Ledger.execute, agree.sealing]
  cases state : ledger.isSealed with
  | true => exact ⟨rfl, agree⟩
  | false =>
    refine ⟨?_, agree.put state key.text adapter⟩
    simp only [Bool.false_eq_true, if_false, agree.contains_staging_iff]
    rfl

/-- Sealing is answered as by the ledger. A refused attempt leaves every part as it was. -/
theorem trySeal (agree : Represents registry ledger) (rejectCollisions : Bool) :
    (registry.execute (.trySeal rejectCollisions)).1 =
        (ledger.execute (.trySeal rejectCollisions)).1 ∧
      Represents (registry.execute (.trySeal rejectCollisions)).2
        (ledger.execute (.trySeal rejectCollisions)).2 := by
  simp only [Registry.execute, Registry.trySeal, Ledger.execute, agree.isSealed_eq, agree.sealing]
  cases state : ledger.isSealed with
  | true => exact ⟨rfl, agree⟩
  | false =>
    have still : { registry with sealing := false } = registry := by
      rw [← state, ← agree.sealing]
    have sealed_now : Represents
        { registry with sealing := true, snapshot := some registry.staging }
        { ledger with isSealed := true } :=
      ⟨agree.staging, agree.staging_nodup, agree.repeated, agree.repeated_nodup, rfl, rfl⟩
    simp only [Bool.false_eq_true, if_false]
    by_cases collide : rejectCollisions = true ∧ ledger.colliding.Nonempty
    · have obstacle : Registry.obstacle? { registry with sealing := true } rejectCollisions =
          some (ledger.colliding.min' collide.2) := by
        rw [Registry.obstacle?, if_pos collide.1]
        exact agree.head?_collisions collide.2
      rw [obstacle, dif_pos collide]
      simp only [still]
      exact ⟨rfl, agree⟩
    · have free : Registry.obstacle? { registry with sealing := true } rejectCollisions = none := by
        rw [Registry.obstacle?]
        split
        · rename_i rejects
          have nothing := Finset.not_nonempty_iff_eq_empty.mp
            fun some_key => collide ⟨rejects, some_key⟩
          have sorted : registry.collisions = [] := by
            rw [agree.collisions_eq, nothing, Finset.sort_empty]
          exact congrArg List.head? sorted
        · rfl
      rw [free, dif_neg collide]
      exact ⟨rfl, sealed_now⟩

/-- Queries are answered as by the ledger and change nothing. -/
theorem execute (agree : Represents registry ledger) (command : Registry.Command α) :
    (registry.execute command).1 = (ledger.execute command).1 ∧
      Represents (registry.execute command).2 (ledger.execute command).2 := by
  cases command with
  | register key adapter => exact agree.register key adapter
  | trySeal rejectCollisions => exact agree.trySeal rejectCollisions
  | lookup key =>
    simp only [Registry.execute, Registry.lookup, agree.adapters_eq, agree.staging, Ledger.execute]
    cases ledger.last? key with
    | some adapter => exact ⟨rfl, agree⟩
    | none => exact ⟨rfl, agree⟩
  | contains key =>
    refine ⟨?_, agree⟩
    have same := agree.contains_staging_iff key
    rw [← agree.adapters_eq] at same
    simp only [Registry.execute, Registry.contains, Ledger.execute, ← same, Bool.decide_eq_true]
  | size => exact ⟨by rw [Registry.execute, agree.size_eq, Ledger.execute], agree⟩
  | keys => exact ⟨by rw [Registry.execute, agree.keys_eq, Ledger.execute], agree⟩
  | collisions => exact ⟨by rw [Registry.execute, agree.collisions_eq, Ledger.execute], agree⟩

/-- Registering entries in order keeps the ledger of these entries. -/
theorem ofEntries (entries : List (CanonicalKey × α)) :
    Represents (Registry.ofEntries entries) (Ledger.ofEntries entries) := by
  induction entries using List.reverseRecOn with
  | nil => exact empty
  | append_singleton entries entry ih =>
    have next := (ih.register entry.1 entry.2).2
    rw [Registry.ofEntries, List.foldl_append]
    simpa [Registry.execute, Registry.ofEntries, Ledger.execute, Ledger.ofEntries, Ledger.add]
      using next

end Represents

/-- A registry made from entries answers with the adapter of one of them. -/
theorem Registry.mem_of_lookup_ofEntries {entries : List (CanonicalKey × α)} {key : String}
    {adapter : α} (found : (Registry.ofEntries entries).lookup key = .ok adapter) :
    ∃ entry ∈ entries, entry.2 = adapter := by
  have agree := Represents.ofEntries entries
  rw [lookup, agree.adapters_eq, agree.staging] at found
  cases last : (Ledger.ofEntries entries).last? key with
  | none => simp [last] at found
  | some other =>
    rw [last] at found
    obtain rfl := Except.ok.inj found
    obtain ⟨entry, here, rfl⟩ := Option.map_eq_some_iff.mp last
    have accepted := List.mem_reverse.mp (List.mem_of_find?_eq_some here)
    obtain ⟨source, mem, rfl⟩ := List.mem_map.mp accepted
    exact ⟨source, mem, rfl⟩

/-- A registry that was made from entries and sealed without collisions answers with the adapter of
each entry. -/
theorem Registry.lookup_of_mem {entries : List (CanonicalKey × α)} {registry : Registry α}
    (done : (Registry.ofEntries entries).trySeal true = (.ok (), registry))
    {entry : CanonicalKey × α} (mem : entry ∈ entries) :
    registry.lookup entry.1.text = .ok entry.2 := by
  obtain ⟨answer, agree⟩ := (Represents.ofEntries entries).trySeal true
  rw [execute, done] at answer agree
  have open_before : (Ledger.ofEntries entries).isSealed = false := rfl
  have distinct : (Ledger.ofEntries entries).colliding = ∅ := by
    rw [← Finset.not_nonempty_iff_eq_empty]
    intro collide
    rw [Ledger.execute, if_neg (by simp [open_before]), dif_pos ⟨rfl, collide⟩] at answer
    cases answer
  have accepted : (entry.1.text, entry.2) ∈ (Ledger.ofEntries entries).accepted :=
    List.mem_map.mpr ⟨entry, mem, rfl⟩
  have last : registry.staging.get? entry.1.text = some entry.2 := by
    rw [← Ledger.last?_of_mem distinct accepted, agree.staging, Ledger.execute,
      if_neg (by simp [open_before]), dif_neg (by simp [distinct])]
    rfl
  rw [lookup, agree.adapters_eq, last]

/-- A registry, new or made from entries, answers every sequence of commands as the ledger of the
same registrations does, and still agrees with it in all its parts at the end. -/
theorem executeAll_refines_ledger (entries : List (CanonicalKey × α))
    (commands : List (Registry.Command α)) :
    ((Registry.ofEntries entries).executeAll commands).1 =
        ((Ledger.ofEntries entries).executeAll commands).1 ∧
      Represents ((Registry.ofEntries entries).executeAll commands).2
        ((Ledger.ofEntries entries).executeAll commands).2 := by
  suffices step : ∀ (registry : Registry α) (ledger : Ledger α), Represents registry ledger →
      (registry.executeAll commands).1 = (ledger.executeAll commands).1 ∧
        Represents (registry.executeAll commands).2 (ledger.executeAll commands).2 from
    step _ _ (Represents.ofEntries entries)
  induction commands with
  | nil => exact fun _ _ agree => ⟨rfl, agree⟩
  | cons command rest ih =>
    intro registry ledger agree
    obtain ⟨answer, next⟩ := agree.execute command
    obtain ⟨answers, last⟩ := ih _ _ next
    simp only [Registry.executeAll, Ledger.executeAll]
    exact ⟨by rw [answer, answers], last⟩

end ServiceDispatch
