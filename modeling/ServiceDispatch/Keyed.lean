/-!
# Finite maps in order of insertion

A small map from keys to values. Writing an existing key replaces its value in place; a new key goes
to the end. The laws below describe every operation through look-up.
-/

namespace ServiceDispatch

/-- A finite map as the list of its entries; each key is meant to occur once. -/
structure Keyed (κ α : Type) where
  /-- Entries in order of first insertion. -/
  entries : List (κ × α)
  deriving Repr

namespace Keyed

variable {κ α : Type} [DecidableEq κ]

/-- The map without entries. -/
def empty : Keyed κ α := ⟨[]⟩

instance : Inhabited (Keyed κ α) := ⟨empty⟩

/-- Looks a key up in a list of entries. -/
def lookup (key : κ) : List (κ × α) → Option α
  | [] => none
  | entry :: rest => if entry.1 = key then some entry.2 else lookup key rest

/-- The value of a key. -/
def get? (map : Keyed κ α) (key : κ) : Option α := lookup key map.entries

/-- Whether a key has a value. -/
def contains (map : Keyed κ α) (key : κ) : Bool := (map.get? key).isSome

/-- Writes a key in a list of entries. -/
def put (key : κ) (value : α) : List (κ × α) → List (κ × α)
  | [] => [(key, value)]
  | entry :: rest =>
    if entry.1 = key then (key, value) :: rest else entry :: put key value rest

/-- Gives a key a value, in place of a former one. -/
def insert (map : Keyed κ α) (key : κ) (value : α) : Keyed κ α := ⟨put key value map.entries⟩

/-- Removes a key. -/
def erase (map : Keyed κ α) (key : κ) : Keyed κ α :=
  ⟨map.entries.filter fun entry => entry.1 ≠ key⟩

/-- Number of entries. -/
def size (map : Keyed κ α) : Nat := map.entries.length

/-- Keys in order of first insertion. -/
def keys (map : Keyed κ α) : List κ := map.entries.map Prod.fst

/-- Values in order of first insertion. -/
def values (map : Keyed κ α) : List α := map.entries.map Prod.snd

/-- The map with another value under each key. -/
def map {β : Type} (map : Keyed κ α) (change : α → β) : Keyed κ β :=
  ⟨map.entries.map fun entry => (entry.1, change entry.2)⟩

@[simp] theorem get?_empty (key : κ) : (empty : Keyed κ α).get? key = none := rfl

theorem lookup_put (key other : κ) (value : α) (entries : List (κ × α)) :
    lookup other (put key value entries) =
      if key = other then some value else lookup other entries := by
  induction entries with
  | nil => simp [put, lookup]
  | cons entry rest ih =>
    by_cases same : entry.1 = key
    · by_cases here : key = other <;> simp [put, lookup, same, here]
    · by_cases here : key = other
      · subst here
        simp [put, lookup, same, ih]
      · simp [put, lookup, same, here, ih]

/-- A write is seen at its own key and nowhere else. -/
@[simp] theorem get?_insert (map : Keyed κ α) (key other : κ) (value : α) :
    (map.insert key value).get? other = if key = other then some value else map.get? other :=
  lookup_put key other value map.entries

/-- Removing a key empties it and touches no other. -/
@[simp] theorem get?_erase (map : Keyed κ α) (key other : κ) :
    (map.erase key).get? other = if key = other then none else map.get? other := by
  obtain ⟨entries⟩ := map
  simp only [get?, erase]
  induction entries with
  | nil => simp [lookup]
  | cons entry rest ih =>
    by_cases gone : entry.1 = key
    · by_cases here : key = other
      · simpa [List.filter_cons, lookup, gone, here] using ih
      · simpa [List.filter_cons, lookup, gone, here] using ih
    · by_cases here : key = other
      · subst here
        simpa [List.filter_cons, lookup, gone] using ih
      · by_cases found : entry.1 = other
        · subst found
          simp [lookup, gone, here]
        · simpa [List.filter_cons, lookup, gone, found, here] using ih

theorem get?_map {β : Type} (map : Keyed κ α) (change : α → β) (key : κ) :
    (map.map change).get? key = (map.get? key).map change := by
  obtain ⟨entries⟩ := map
  simp only [get?, Keyed.map]
  induction entries with
  | nil => rfl
  | cons entry rest ih =>
    by_cases here : entry.1 = key
    · simp [lookup, here]
    · simpa [lookup, here] using ih

theorem lookup_isSome_iff (key : κ) (entries : List (κ × α)) :
    (lookup key entries).isSome = true ↔ key ∈ entries.map Prod.fst := by
  induction entries with
  | nil => simp [lookup]
  | cons entry rest ih =>
    by_cases same : entry.1 = key
    · simp [lookup, same]
    · simp [lookup, same, ih, Ne.symm same]

/-- The keys are those that have a value. -/
theorem mem_keys_iff {map : Keyed κ α} {key : κ} : key ∈ map.keys ↔ map.contains key = true :=
  (lookup_isSome_iff key map.entries).symm

theorem map_fst_put (key : κ) (value : α) (entries : List (κ × α)) :
    (put key value entries).map Prod.fst =
      if key ∈ entries.map Prod.fst then entries.map Prod.fst
      else entries.map Prod.fst ++ [key] := by
  induction entries with
  | nil => simp [put]
  | cons entry rest ih =>
    by_cases same : entry.1 = key
    · simp [put, same]
    · simp only [put, same, if_false, List.map_cons, ih, List.mem_cons]
      by_cases later : key ∈ rest.map Prod.fst
      · simp [later]
      · simp [later, Ne.symm same]

/-- A new key goes to the end. -/
theorem put_of_notMem {key : κ} {entries : List (κ × α)} (fresh : key ∉ entries.map Prod.fst)
    (value : α) : put key value entries = entries ++ [(key, value)] := by
  induction entries with
  | nil => rfl
  | cons entry rest ih =>
    rw [List.map_cons, List.mem_cons, not_or] at fresh
    rw [put, if_neg (Ne.symm fresh.1), ih fresh.2, List.cons_append]

/-- A new key goes to the end of the keys; a former one keeps its place. -/
theorem keys_insert (map : Keyed κ α) (key : κ) (value : α) :
    (map.insert key value).keys = if key ∈ map.keys then map.keys else map.keys ++ [key] :=
  map_fst_put key value map.entries

/-- No key occurs twice after a write if none did before. -/
theorem keys_insert_nodup {map : Keyed κ α} (distinct : map.keys.Nodup) (key : κ) (value : α) :
    (map.insert key value).keys.Nodup := by
  rw [keys_insert]
  split
  · exact distinct
  · rename_i fresh
    rw [List.nodup_append]
    refine ⟨distinct, by simp, ?_⟩
    intro former member latter last
    obtain rfl := List.mem_singleton.mp last
    intro same
    exact fresh (same ▸ member)

end Keyed

/-- Texts in rising order of their code points. -/
def sortedTexts (texts : List String) : List String :=
  texts.mergeSort fun first second => !(decide (second < first))

end ServiceDispatch
