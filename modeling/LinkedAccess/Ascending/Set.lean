/-!
# Ascending sets

A finite set kept as the list of its members in strictly ascending order. The list is determined by
the members alone, so two sets with the same members are equal, whatever was added first and however
often; every listing of a set is therefore a stable answer.

The main statements say what each operation does to membership, and `AscendingSet.ext` that
membership is all there is to a set.
-/

namespace LinkedAccess

open Std

/-- A finite set, kept as its members in strictly ascending order. -/
structure AscendingSet (α : Type) [Ord α] where
  toList : List α
  ascending : toList.Pairwise (compare · · = .lt)

namespace AscendingSet

variable {α : Type} [Ord α]

section Lists

/-- Puts `member` at its place in an ascending list, unless it is there already. -/
def place (member : α) : List α → List α
  | [] => [member]
  | head :: tail =>
    match compare member head with
    | .lt => member :: head :: tail
    | .eq => head :: tail
    | .gt => head :: place member tail

theorem mem_place [LawfulEqOrd α] {member other : α} {members : List α} :
    other ∈ place member members ↔ other = member ∨ other ∈ members := by
  induction members with
  | nil => simp [place]
  | cons head tail inductionHypothesis =>
    simp only [place]
    split
    · simp
    · rename_i equal
      rw [LawfulEqOrd.eq_of_compare equal]
      simp
    · simp only [List.mem_cons, inductionHypothesis]
      grind

theorem pairwise_place [TransOrd α] [LawfulEqOrd α] {member : α} {members : List α}
    (ascending : members.Pairwise (compare · · = .lt)) :
    (place member members).Pairwise (compare · · = .lt) := by
  induction members with
  | nil => simp [place]
  | cons head tail inductionHypothesis =>
    obtain ⟨below, ascendingTail⟩ := List.pairwise_cons.1 ascending
    simp only [place]
    split
    · rename_i less
      refine List.pairwise_cons.2 ⟨fun other otherMem => ?_, ascending⟩
      rcases List.mem_cons.1 otherMem with rfl | otherMem
      · exact less
      · exact TransCmp.lt_trans less (below other otherMem)
    · exact ascending
    · rename_i greater
      refine List.pairwise_cons.2 ⟨fun other otherMem => ?_, inductionHypothesis ascendingTail⟩
      rcases mem_place.1 otherMem with rfl | otherMem
      · exact OrientedCmp.lt_of_gt greater
      · exact below other otherMem

/-- Whether a member is not there yet. In an ascending list this is known at the place where it
belongs, and what comes after it is not looked at. -/
def isMissing (member : α) : List α → Bool
  | [] => true
  | head :: tail =>
    match compare member head with
    | .lt => true
    | .eq => false
    | .gt => isMissing member tail

theorem isMissing_iff [TransOrd α] [LawfulEqOrd α] {member : α} {members : List α}
    (ascending : members.Pairwise (compare · · = .lt)) :
    isMissing member members = true ↔ member ∉ members := by
  induction members with
  | nil => simp [isMissing]
  | cons head tail inductionHypothesis =>
    obtain ⟨below, ascendingTail⟩ := List.pairwise_cons.1 ascending
    simp only [isMissing]
    split
    · rename_i less
      have notHere : member ∉ head :: tail := by
        intro memberMem
        rcases List.mem_cons.1 memberMem with rfl | memberMem
        · simp at less
        · simpa using TransCmp.lt_trans less (below member memberMem)
      exact iff_of_true rfl notHere
    · rename_i equal
      simp [LawfulEqOrd.eq_of_compare equal]
    · rename_i greater
      have isOther : member ≠ head := by
        rintro rfl
        simp at greater
      rw [inductionHypothesis ascendingTail, List.mem_cons, not_or]
      exact ⟨fun notLater => ⟨isOther, notLater⟩, fun notHere => notHere.2⟩

end Lists

instance [DecidableEq α] : DecidableEq (AscendingSet α) := fun first second =>
  decidable_of_iff (first.toList = second.toList)
    ⟨fun same => by cases first; cases second; simp_all, fun same => congrArg toList same⟩

instance : EmptyCollection (AscendingSet α) := ⟨⟨[], List.Pairwise.nil⟩⟩

instance : Inhabited (AscendingSet α) := ⟨∅⟩

instance : Membership α (AscendingSet α) := ⟨fun set member => member ∈ set.toList⟩

theorem mem_iff_mem_toList {set : AscendingSet α} {member : α} :
    member ∈ set ↔ member ∈ set.toList := Iff.rfl

instance [DecidableEq α] (set : AscendingSet α) (member : α) : Decidable (member ∈ set) :=
  inferInstanceAs (Decidable (member ∈ set.toList))

theorem nodup_toList [TransOrd α] (set : AscendingSet α) : set.toList.Nodup := by
  apply set.ascending.imp
  rintro member _ less rfl
  simp at less

/-- Two sets with the same members are equal. -/
theorem ext [TransOrd α] {first second : AscendingSet α}
    (same : ∀ member, member ∈ first ↔ member ∈ second) : first = second := by
  have isPermutation : first.toList.Perm second.toList :=
    (List.perm_ext_iff_of_nodup first.nodup_toList second.nodup_toList).2 same
  have asymmetric (member other : α) (less : compare member other = .lt) :
      compare other member ≠ .lt := OrientedCmp.not_lt_of_lt less
  have sameList : first.toList = second.toList :=
    isPermutation.eq_of_pairwise
      (fun member other _ _ less greater => absurd greater (asymmetric member other less))
      first.ascending second.ascending
  cases first
  cases second
  simp_all

/-- The number of members. -/
def size (set : AscendingSet α) : Nat := set.toList.length

/-- Whether the set has no member. -/
def isEmpty (set : AscendingSet α) : Bool := set.toList.isEmpty

/-- The set with `member` added. -/
def insert [TransOrd α] [LawfulEqOrd α] (set : AscendingSet α) (member : α) : AscendingSet α :=
  ⟨place member set.toList, pairwise_place set.ascending⟩

/-- Adds `member` to a set, and tells whether it was not there before. -/
def add [TransOrd α] [LawfulEqOrd α] (member : α) : StateM (AscendingSet α) Bool := fun set =>
  (isMissing member set.toList, set.insert member)

/-- The set with every member of a list added. -/
def insertAll [TransOrd α] [LawfulEqOrd α] (set : AscendingSet α) (members : List α) :
    AscendingSet α :=
  members.foldl insert set

/-- The set of the members of a list. -/
def ofList [TransOrd α] [LawfulEqOrd α] (members : List α) : AscendingSet α :=
  insertAll ∅ members

/-- The members of either set. -/
def union [TransOrd α] [LawfulEqOrd α] (first second : AscendingSet α) : AscendingSet α :=
  first.insertAll second.toList

instance [TransOrd α] [LawfulEqOrd α] : Union (AscendingSet α) := ⟨union⟩

/-- The members that satisfy a condition. -/
def filter (set : AscendingSet α) (condition : α → Bool) : AscendingSet α :=
  ⟨set.toList.filter condition, set.ascending.filter condition⟩

instance [DecidableEq α] : SDiff (AscendingSet α) :=
  ⟨fun set removed => set.filter fun member => decide (member ∉ removed)⟩

/-- The images of the members under a function. -/
def image {β : Type} [Ord β] [TransOrd β] [LawfulEqOrd β] (function : α → β)
    (set : AscendingSet α) : AscendingSet β :=
  ofList (set.toList.map function)

/-- The members before a member are the smaller ones. -/
theorem mem_front_iff [TransOrd α] {set : AscendingSet α} {front back : List α} {member other : α}
    (split : set.toList = front ++ member :: back) :
    other ∈ front ↔ other ∈ set ∧ compare other member = .lt := by
  have ascending := set.ascending
  rw [split, List.pairwise_append, List.pairwise_cons] at ascending
  rcases ascending with ⟨_, ⟨isAbove, _⟩, isBelow⟩
  rw [mem_iff_mem_toList, split, List.mem_append, List.mem_cons]
  constructor
  · intro otherMem
    exact ⟨Or.inl otherMem, isBelow other otherMem member List.mem_cons_self⟩
  · rintro ⟨inFront | rfl | inBack, less⟩
    · exact inFront
    · simp at less
    · simpa using TransCmp.lt_trans less (isAbove other inBack)

@[simp]
theorem not_mem_empty (member : α) : member ∉ (∅ : AscendingSet α) := List.not_mem_nil

@[simp]
theorem mem_insert [TransOrd α] [LawfulEqOrd α] {set : AscendingSet α} {member other : α} :
    other ∈ set.insert member ↔ other = member ∨ other ∈ set :=
  mem_place

/-- A member is told to be new exactly when it was not there. -/
theorem add_iff [TransOrd α] [LawfulEqOrd α] {set : AscendingSet α} {member : α} :
    (add member set).1 = true ↔ member ∉ set :=
  isMissing_iff set.ascending

@[simp]
theorem mem_insertAll [TransOrd α] [LawfulEqOrd α] {set : AscendingSet α} {members : List α}
    {other : α} : other ∈ set.insertAll members ↔ other ∈ members ∨ other ∈ set := by
  induction members generalizing set with
  | nil => simp [insertAll]
  | cons head tail inductionHypothesis =>
    have step : set.insertAll (head :: tail) = (set.insert head).insertAll tail := rfl
    rw [step, inductionHypothesis, mem_insert, List.mem_cons]
    grind

@[simp]
theorem mem_ofList [TransOrd α] [LawfulEqOrd α] {members : List α} {other : α} :
    other ∈ ofList members ↔ other ∈ members := by
  simp [ofList]

@[simp]
theorem ofList_toList [TransOrd α] [LawfulEqOrd α] (set : AscendingSet α) :
    ofList set.toList = set :=
  ext fun _ => mem_ofList

@[simp]
theorem mem_union [TransOrd α] [LawfulEqOrd α] {first second : AscendingSet α} {other : α} :
    other ∈ first ∪ second ↔ other ∈ first ∨ other ∈ second := by
  show other ∈ first.insertAll second.toList ↔ _
  rw [mem_insertAll]
  exact Or.comm

@[simp]
theorem mem_filter {set : AscendingSet α} {condition : α → Bool} {other : α} :
    other ∈ set.filter condition ↔ other ∈ set ∧ condition other = true :=
  List.mem_filter

@[simp]
theorem mem_sdiff [DecidableEq α] {set removed : AscendingSet α} {other : α} :
    other ∈ set \ removed ↔ other ∈ set ∧ other ∉ removed := by
  show other ∈ set.filter _ ↔ _
  simp

@[simp]
theorem mem_image {β : Type} [Ord β] [TransOrd β] [LawfulEqOrd β] {function : α → β}
    {set : AscendingSet α} {other : β} :
    other ∈ set.image function ↔ ∃ member ∈ set, function member = other := by
  rw [image, mem_ofList, List.mem_map]
  rfl

end AscendingSet

end LinkedAccess
