import LinkedAccess.Ascending.Set

/-!
# Ascending maps

A finite map kept as the list of its entries with strictly ascending keys. As with ascending sets
the list is determined by what it answers: two maps that answer every key alike are equal
(`AscendingMap.ext`), so a map built in another order, or with an entry overwritten on the way, is
the same map. The other statements say what each operation does to `get?`.
-/

namespace LinkedAccess

open Std

/-- A finite map, kept as its entries in strictly ascending order of their keys. -/
structure AscendingMap (κ ν : Type) [Ord κ] where
  toList : List (κ × ν)
  ascending : toList.Pairwise fun first second => compare first.1 second.1 = .lt

namespace AscendingMap

variable {κ ν : Type}

section Lists

/-- The value stored for `key` in a list of entries. -/
def lookup [DecidableEq κ] (key : κ) : List (κ × ν) → Option ν
  | [] => none
  | (other, value) :: rest => if key = other then some value else lookup key rest

theorem mem_of_lookup [DecidableEq κ] {key : κ} {value : ν} {entries : List (κ × ν)}
    (found : lookup key entries = some value) : (key, value) ∈ entries := by
  induction entries with
  | nil => simp [lookup] at found
  | cons head rest inductionHypothesis =>
    obtain ⟨other, previous⟩ := head
    simp only [lookup] at found
    split at found
    · simp_all
    · exact List.mem_cons_of_mem _ (inductionHypothesis found)

variable [Ord κ]

/-- Puts an entry at its place in an ascending list, in place of one with the same key. -/
def place (key : κ) (value : ν) : List (κ × ν) → List (κ × ν)
  | [] => [(key, value)]
  | (other, previous) :: rest =>
    match compare key other with
    | .lt => (key, value) :: (other, previous) :: rest
    | .eq => (key, value) :: rest
    | .gt => (other, previous) :: place key value rest

theorem lookup_place [DecidableEq κ] [LawfulEqOrd κ] (key query : κ) (value : ν)
    (entries : List (κ × ν)) :
    lookup query (place key value entries) =
      if query = key then some value else lookup query entries := by
  induction entries with
  | nil => simp [place, lookup]
  | cons entry rest inductionHypothesis =>
    obtain ⟨other, previous⟩ := entry
    simp only [place]
    split
    · simp [lookup]
    · rename_i equal
      rw [LawfulEqOrd.eq_of_compare equal]
      by_cases same : query = other <;> simp [lookup, same]
    · rename_i greater
      simp only [lookup, inductionHypothesis]
      by_cases same : query = other
      · subst same
        have different : query ≠ key := by
          rintro rfl
          simp at greater
        simp [different]
      · simp [same]

theorem key_of_mem_place {key : κ} {value : ν} {entry : κ × ν} {entries : List (κ × ν)}
    (entryMem : entry ∈ place key value entries) : entry.1 = key ∨ entry ∈ entries := by
  induction entries with
  | nil => simp_all [place]
  | cons head rest inductionHypothesis =>
    obtain ⟨other, previous⟩ := head
    simp only [place] at entryMem
    split at entryMem
    · rcases List.mem_cons.1 entryMem with rfl | entryMem
      · exact Or.inl rfl
      · exact Or.inr entryMem
    · rcases List.mem_cons.1 entryMem with rfl | entryMem
      · exact Or.inl rfl
      · exact Or.inr (List.mem_cons_of_mem _ entryMem)
    · rcases List.mem_cons.1 entryMem with rfl | entryMem
      · exact Or.inr List.mem_cons_self
      · exact (inductionHypothesis entryMem).imp id (List.mem_cons_of_mem _)

theorem pairwise_place [TransOrd κ] [LawfulEqOrd κ] {key : κ} {value : ν}
    {entries : List (κ × ν)}
    (ascending : entries.Pairwise fun first second => compare first.1 second.1 = .lt) :
    (place key value entries).Pairwise fun first second => compare first.1 second.1 = .lt := by
  induction entries with
  | nil => simp [place]
  | cons head rest inductionHypothesis =>
    obtain ⟨other, previous⟩ := head
    obtain ⟨below, ascendingRest⟩ := List.pairwise_cons.1 ascending
    simp only [place]
    split
    · rename_i less
      refine List.pairwise_cons.2 ⟨fun entry entryMem => ?_, ascending⟩
      rcases List.mem_cons.1 entryMem with rfl | entryMem
      · exact less
      · exact TransCmp.lt_trans less (below entry entryMem)
    · rename_i equal
      rw [LawfulEqOrd.eq_of_compare equal]
      exact List.pairwise_cons.2 ⟨below, ascendingRest⟩
    · rename_i greater
      refine List.pairwise_cons.2 ⟨fun entry entryMem => ?_, inductionHypothesis ascendingRest⟩
      rcases key_of_mem_place entryMem with sameKey | entryMem
      · rw [sameKey]
        exact OrientedCmp.lt_of_gt greater
      · exact below entry entryMem

theorem lookup_eq_none_of_below [DecidableEq κ] [TransOrd κ] {key : κ} {entries : List (κ × ν)}
    (below : ∀ entry ∈ entries, compare key entry.1 = .lt) : lookup key entries = none := by
  induction entries with
  | nil => rfl
  | cons head rest inductionHypothesis =>
    obtain ⟨other, value⟩ := head
    have different : key ≠ other := by
      rintro rfl
      simpa using below (key, value) List.mem_cons_self
    simp [lookup, different,
      inductionHypothesis fun entry entryMem => below entry (List.mem_cons_of_mem _ entryMem)]

/-- In an ascending list an entry is present exactly when its key answers its value. -/
theorem mem_iff_lookup [DecidableEq κ] [TransOrd κ] {key : κ} {value : ν}
    {entries : List (κ × ν)}
    (ascending : entries.Pairwise fun first second => compare first.1 second.1 = .lt) :
    (key, value) ∈ entries ↔ lookup key entries = some value := by
  refine ⟨fun entryMem => ?_, mem_of_lookup⟩
  induction entries with
  | nil => simp at entryMem
  | cons head rest inductionHypothesis =>
    obtain ⟨other, previous⟩ := head
    obtain ⟨below, ascendingRest⟩ := List.pairwise_cons.1 ascending
    rcases List.mem_cons.1 entryMem with same | entryMem
    · cases same
      simp [lookup]
    · have less : compare other key = .lt := below _ entryMem
      have different : key ≠ other := by
        rintro rfl
        simp at less
      simp [lookup, different, inductionHypothesis ascendingRest entryMem]

end Lists

variable [Ord κ]

instance [DecidableEq κ] [DecidableEq ν] : DecidableEq (AscendingMap κ ν) := fun first second =>
  decidable_of_iff (first.toList = second.toList)
    ⟨fun same => by cases first; cases second; simp_all, fun same => congrArg toList same⟩

instance : EmptyCollection (AscendingMap κ ν) := ⟨⟨[], List.Pairwise.nil⟩⟩

instance : Inhabited (AscendingMap κ ν) := ⟨∅⟩

/-- The value stored for a key. -/
def get? [DecidableEq κ] (map : AscendingMap κ ν) (key : κ) : Option ν := lookup key map.toList

/-- The map with `value` stored for `key`, whatever was stored there. -/
def insert [TransOrd κ] [LawfulEqOrd κ] (map : AscendingMap κ ν) (key : κ) (value : ν) :
    AscendingMap κ ν :=
  ⟨place key value map.toList, pairwise_place map.ascending⟩

/-- The map without any value for `key`. -/
def erase [DecidableEq κ] (map : AscendingMap κ ν) (key : κ) : AscendingMap κ ν :=
  ⟨map.toList.filter fun entry => decide (entry.1 ≠ key), map.ascending.filter _⟩

/-- The keys that have a value. -/
def keys (map : AscendingMap κ ν) : AscendingSet κ :=
  ⟨map.toList.map (·.1), List.pairwise_map.2 map.ascending⟩

/-- The number of entries. -/
def size (map : AscendingMap κ ν) : Nat := map.toList.length

/-- Whether there is no entry. -/
def isEmpty (map : AscendingMap κ ν) : Bool := map.toList.isEmpty

/-- The map of a list of entries; of two entries for one key the later counts. -/
def ofList [TransOrd κ] [LawfulEqOrd κ] (entries : List (κ × ν)) : AscendingMap κ ν :=
  entries.foldl (fun map entry => map.insert entry.1 entry.2) ∅

/-- The map that stores at each key of a set the value that a function gives for it. -/
def tabulate (keys : AscendingSet κ) (value : κ → ν) : AscendingMap κ ν :=
  ⟨keys.toList.map fun key => (key, value key), List.pairwise_map.2 keys.ascending⟩

theorem nodup_toList [TransOrd κ] (map : AscendingMap κ ν) : map.toList.Nodup := by
  apply map.ascending.imp
  rintro entry _ less rfl
  simp at less

/-- Two maps that answer every key alike are equal. -/
theorem ext [DecidableEq κ] [TransOrd κ] {first second : AscendingMap κ ν}
    (same : ∀ key, first.get? key = second.get? key) : first = second := by
  have sameEntries (entry : κ × ν) : entry ∈ first.toList ↔ entry ∈ second.toList := by
    rw [mem_iff_lookup first.ascending, mem_iff_lookup second.ascending, ← get?, ← get?, same]
  have isPermutation : first.toList.Perm second.toList :=
    (List.perm_ext_iff_of_nodup first.nodup_toList second.nodup_toList).2 sameEntries
  have asymmetric (key other : κ) (less : compare key other = .lt) :
      compare other key ≠ .lt := OrientedCmp.not_lt_of_lt less
  have sameList : first.toList = second.toList :=
    isPermutation.eq_of_pairwise
      (fun entry other _ _ less greater => absurd greater (asymmetric entry.1 other.1 less))
      first.ascending second.ascending
  cases first
  cases second
  simp_all

@[simp]
theorem get?_empty [DecidableEq κ] (key : κ) : (∅ : AscendingMap κ ν).get? key = none := rfl

@[simp]
theorem get?_insert [DecidableEq κ] [TransOrd κ] [LawfulEqOrd κ] {map : AscendingMap κ ν}
    {key query : κ} {value : ν} :
    (map.insert key value).get? query = if query = key then some value else map.get? query :=
  lookup_place key query value map.toList

/-- What is true of the entries of a map and of one more is true of all when this one is added. -/
theorem forall_insert [DecidableEq κ] [TransOrd κ] [LawfulEqOrd κ] {map : AscendingMap κ ν}
    {key : κ} {value : ν} {holds : κ → ν → Prop}
    (onMap : ∀ other found, map.get? other = some found → holds other found)
    (onEntry : holds key value) :
    ∀ other found, (map.insert key value).get? other = some found → holds other found := by
  intro other found isKnown
  rw [get?_insert] at isKnown
  by_cases same : other = key
  · subst same
    rw [if_pos rfl, Option.some.injEq] at isKnown
    rwa [← isKnown]
  · rw [if_neg same] at isKnown
    exact onMap other found isKnown

/-- An entry is listed exactly when its key has its value. -/
theorem mem_toList [DecidableEq κ] [TransOrd κ] {map : AscendingMap κ ν} {key : κ} {value : ν} :
    (key, value) ∈ map.toList ↔ map.get? key = some value :=
  mem_iff_lookup map.ascending

/-- The entries before an entry are those with smaller keys. -/
theorem mem_front_iff [DecidableEq κ] [TransOrd κ] {map : AscendingMap κ ν}
    {front back : List (κ × ν)} {key : κ} {value : ν}
    (split : map.toList = front ++ (key, value) :: back) {entry : κ × ν} :
    entry ∈ front ↔ entry ∈ map.toList ∧ compare entry.1 key = .lt := by
  have ascending := map.ascending
  rw [split, List.pairwise_append, List.pairwise_cons] at ascending
  rcases ascending with ⟨_, ⟨isAbove, _⟩, isBelow⟩
  rw [split, List.mem_append, List.mem_cons]
  constructor
  · intro entryMem
    exact ⟨Or.inl entryMem, isBelow entry entryMem _ List.mem_cons_self⟩
  · rintro ⟨inFront | rfl | inBack, less⟩
    · exact inFront
    · simp at less
    · simpa using TransCmp.lt_trans less (isAbove entry inBack)

/-- Of what is stored by the keys of a list only the value for a key can be found there. -/
theorem get?_foldl_insert [DecidableEq κ] [TransOrd κ] [LawfulEqOrd κ] {map : AscendingMap κ ν}
    {value : κ → ν} {keys : List κ} {query : κ} :
    (keys.foldl (fun map key => map.insert key (value key)) map).get? query =
      if query ∈ keys then some (value query) else map.get? query := by
  induction keys generalizing map with
  | nil => simp
  | cons key later inductionHypothesis =>
    simp only [List.foldl_cons, inductionHypothesis, get?_insert, List.mem_cons]
    grind

@[simp]
theorem get?_erase [DecidableEq κ] {map : AscendingMap κ ν} {key query : κ} :
    (map.erase key).get? query = if query = key then none else map.get? query := by
  simp only [get?, erase]
  induction map.toList with
  | nil => simp [lookup]
  | cons head rest inductionHypothesis =>
    obtain ⟨other, value⟩ := head
    by_cases isErased : other = key
    · subst isErased
      by_cases isQuery : query = other <;> simp_all [lookup]
    · by_cases isQuery : query = other <;> simp_all [lookup]

@[simp]
theorem get?_tabulate [DecidableEq κ] {keys : AscendingSet κ} {value : κ → ν} {query : κ} :
    (tabulate keys value).get? query = if query ∈ keys then some (value query) else none := by
  simp only [get?, tabulate, AscendingSet.mem_iff_mem_toList]
  induction keys.toList with
  | nil => simp [lookup]
  | cons head rest inductionHypothesis =>
    by_cases isQuery : query = head <;> simp_all [lookup]

/-- A key has a value exactly when it is one of the keys. -/
theorem mem_keys [DecidableEq κ] {map : AscendingMap κ ν} {key : κ} :
    key ∈ map.keys ↔ (map.get? key).isSome := by
  simp only [AscendingSet.mem_iff_mem_toList, keys, get?]
  induction map.toList with
  | nil => simp [lookup]
  | cons head rest inductionHypothesis =>
    by_cases isKey : key = head.1 <;> simp_all [lookup]

end AscendingMap

end LinkedAccess
