import LinkedAccess.Proofs.Settling
import LinkedAccess.Resolver

/-!
# Unions of resolvers

A map of permissions says three kinds of things about a target: that there is an entry for it, that
a group is present in the entry, and that the group is granted a mode. What a map says determines
it, although an entry without any group differs from no entry, and a group without any mode from no
group. The union of maps says what any of them says, so that its laws are those of disjunction, and
resolvers whose findings are merged may be reordered, repeated and nested.
-/

namespace LinkedAccess

/-- What is true of a merged value if it is true of either part is true of merged options if it is
true of either. -/
theorem exists_mem_merge {α : Type} (merge : α → α → α) (holds : α → Prop)
    (onMerge : ∀ first second, holds (merge first second) ↔ holds first ∨ holds second)
    (first second : Option α) :
    (∃ value ∈ first.merge merge second, holds value) ↔
      (∃ value ∈ first, holds value) ∨ ∃ value ∈ second, holds value := by
  cases first with
  | none => cases second <;> simp
  | some left =>
      cases second with
      | none => simp
      | some right => simp [onMerge]

/-- Entries with ascending keys that are put into a map one by one meet nothing of each other. -/
theorem AscendingMap.get?_foldl_update {κ ν : Type} [Ord κ] [DecidableEq κ] [Std.TransOrd κ]
    [Std.LawfulEqOrd κ] (update : Option ν → ν → ν) {entries : List (κ × ν)}
    (ascending : entries.Pairwise fun first second => compare first.1 second.1 = .lt)
    (map : AscendingMap κ ν) (key : κ) :
    (entries.foldl
        (fun map entry => map.insert entry.1 (update (map.get? entry.1) entry.2)) map).get? key =
      ((lookup key entries).map (update (map.get? key))).or (map.get? key) := by
  induction entries generalizing map with
  | nil => simp [lookup]
  | cons head rest inductionHypothesis =>
      rcases head with ⟨other, value⟩
      rcases List.pairwise_cons.1 ascending with ⟨below, ascendingRest⟩
      rw [List.foldl_cons, inductionHypothesis ascendingRest, lookup]
      by_cases same : key = other
      · subst same
        simp [lookup_eq_none_of_below below]
      · simp [same]

namespace Permission

theorem none_union (permission : Permission) : none.union permission = permission := by
  apply eq_of_allows_eq
  intro mode
  simp

end Permission

namespace PermissionSet

/-- What may be said of the permissions on a target. -/
inductive Aspect where
  /-- There are some at all. -/
  | entry
  /-- A group is present. -/
  | group (group : Group)
  /-- A group is granted a mode. -/
  | mode (group : Group) (mode : Mode)

/-- Whether something is true of a set of permissions. -/
def Has (permissions : PermissionSet) : Aspect → Prop
  | .entry => True
  | .group group => ∃ permission, permissions.get? group = some permission
  | .mode group mode =>
    ∃ permission, permissions.get? group = some permission ∧ permission.allows mode = true

theorem get?_merge (first second : PermissionSet) (group : Group) :
    (first.merge second).get? group =
      (first.get? group).merge Permission.union (second.get? group) := by
  have sameMerge (left right : Option Permission) :
      mergeOne left right = left.merge Permission.union right := by
    cases left <;> cases right <;> simp [mergeOne, Permission.none_union]
  cases group with
  | everyone => exact sameMerge first.everyone second.everyone
  | agent => exact sameMerge first.agent second.agent

theorem empty_merge (permissions : PermissionSet) :
    ({} : PermissionSet).merge permissions = permissions := by
  apply eq_of_get?_eq
  intro group
  have isAbsent : ({} : PermissionSet).get? group = none := by cases group <;> rfl
  rw [get?_merge, isAbsent]
  cases permissions.get? group <;> rfl

theorem has_merge (first second : PermissionSet) (aspect : Aspect) :
    (first.merge second).Has aspect ↔ first.Has aspect ∨ second.Has aspect := by
  cases aspect with
  | entry => simp [Has]
  | group group =>
      simp only [Has, get?_merge]
      have onGroup := exists_mem_merge Permission.union (fun _ => True) (by simp)
        (first.get? group) (second.get? group)
      simpa using onGroup
  | mode group mode =>
      simp only [Has, get?_merge]
      have onModes := exists_mem_merge Permission.union
        (fun permission => permission.allows mode = true) (by simp)
        (first.get? group) (second.get? group)
      simpa using onModes

theorem eq_of_has {first second : PermissionSet}
    (same : ∀ aspect, first.Has aspect ↔ second.Has aspect) : first = second := by
  apply eq_of_get?_eq
  intro group
  have sameGroup := same (.group group)
  have sameMode := fun mode => same (.mode group mode)
  simp only [Has] at sameGroup sameMode
  cases left : first.get? group with
  | none =>
      cases right : second.get? group with
      | none => rfl
      | some permission => simp [left, right] at sameGroup
  | some permission =>
      cases right : second.get? group with
      | none => simp [left, right] at sameGroup
      | some other =>
          have samePermission : permission = other := by
            apply Permission.eq_of_allows_eq
            intro mode
            rw [Bool.eq_iff_iff]
            simpa [left, right] using sameMode mode
          rw [samePermission]

end PermissionSet

namespace PermissionMap

/-- Whether a map has an entry for a target of which something is true. -/
def Shows (found : PermissionMap) (target : Identifier) (aspect : PermissionSet.Aspect) : Prop :=
  ∃ permissions, AscendingMap.get? found target = some permissions ∧ permissions.Has aspect

theorem get?_merge (first second : PermissionMap) (target : Identifier) :
    AscendingMap.get? (merge first second) target =
      (AscendingMap.get? first target).merge PermissionSet.merge
        (AscendingMap.get? second target) := by
  have merged := AscendingMap.get?_foldl_update
    (fun previous permissions => PermissionSet.merge (previous.getD {}) permissions)
    second.ascending first target
  rw [merge, merged]
  change ((AscendingMap.get? second target).map _).or _ = _
  cases AscendingMap.get? first target with
  | none => cases AscendingMap.get? second target <;> simp [PermissionSet.empty_merge]
  | some permissions => cases AscendingMap.get? second target <;> simp

theorem not_shows_empty (target : Identifier) (aspect : PermissionSet.Aspect) :
    ¬ Shows ∅ target aspect := by
  simp [Shows]

theorem shows_merge (first second : PermissionMap) (target : Identifier)
    (aspect : PermissionSet.Aspect) :
    Shows (merge first second) target aspect ↔
      Shows first target aspect ∨ Shows second target aspect := by
  rw [Shows, get?_merge]
  exact exists_mem_merge _ _ (fun left right => PermissionSet.has_merge left right aspect) _ _

theorem eq_of_shows {first second : PermissionMap}
    (same : ∀ target aspect, Shows first target aspect ↔ Shows second target aspect) :
    first = second := by
  apply AscendingMap.ext
  intro target
  have sameAspects := same target
  simp only [Shows] at sameAspects
  cases left : AscendingMap.get? first target with
  | none =>
      cases right : AscendingMap.get? second target with
      | none => rfl
      | some permissions => simpa [left, right, PermissionSet.Has] using sameAspects .entry
  | some permissions =>
      cases right : AscendingMap.get? second target with
      | none => simpa [left, right, PermissionSet.Has] using sameAspects .entry
      | some others =>
          have sameSet : permissions = others := by
            apply PermissionSet.eq_of_has
            intro aspect
            simpa [left, right] using sameAspects aspect
          rw [sameSet]

theorem merge_assoc (first second third : PermissionMap) :
    merge (merge first second) third = merge first (merge second third) := by
  apply eq_of_shows
  intro target aspect
  simp only [shows_merge, or_assoc]

theorem empty_merge (found : PermissionMap) : merge ∅ found = found := by
  apply eq_of_shows
  intro target aspect
  simp [shows_merge, not_shows_empty]

/-- Merges the maps of a list. -/
def mergeAll (founds : List PermissionMap) : PermissionMap := founds.foldr merge ∅

theorem shows_mergeAll (founds : List PermissionMap) (target : Identifier)
    (aspect : PermissionSet.Aspect) :
    Shows (mergeAll founds) target aspect ↔ ∃ found ∈ founds, Shows found target aspect := by
  induction founds with
  | nil => simp [mergeAll, not_shows_empty]
  | cons found later inductionHypothesis =>
      rw [mergeAll, List.foldr_cons, shows_merge, ← mergeAll, inductionHypothesis]
      simp

/-- Merging does not depend on the order of the maps, nor on how often each occurs. -/
theorem mergeAll_congr {founds others : List PermissionMap}
    (same : ∀ found, found ∈ others ↔ found ∈ founds) : mergeAll others = mergeAll founds := by
  apply eq_of_shows
  intro target aspect
  simp only [shows_mergeAll, same]

end PermissionMap

namespace Resolver

variable {σ : Type}

/-- What the resolvers of a list find or fail with, each in the state that the one before leaves. -/
def outcomes (credentials : Credentials) (requested : AccessMap) :
    List (Resolver σ) → σ → List (Except AccessError PermissionMap)
  | [], _ => []
  | resolver :: later, state =>
    let (outcome, state) := resolver credentials requested state
    outcome :: outcomes credentials requested later state

variable {credentials : Credentials} {requested : AccessMap} {members : List (Resolver σ)}
  {state : σ}

theorem exists_founds (outcomes : List (Except AccessError PermissionMap)) :
    (∃ founds : List PermissionMap, outcomes = founds.map .ok) ∨
      ∃ (founds : List PermissionMap) (error : AccessError) (after : _),
        outcomes = founds.map .ok ++ .error error :: after := by
  induction outcomes with
  | nil => exact Or.inl ⟨[], rfl⟩
  | cons outcome later inductionHypothesis =>
      cases outcome with
      | error error => exact Or.inr ⟨[], error, later, rfl⟩
      | ok found =>
          rcases inductionHypothesis with ⟨founds, rfl⟩ | ⟨founds, error, after, rfl⟩
          · exact Or.inl ⟨found :: founds, rfl⟩
          · exact Or.inr ⟨found :: founds, error, after, rfl⟩

@[simp]
theorem length_outcomes :
    (outcomes credentials requested members state).length = members.length := by
  induction members generalizing state with
  | nil => rfl
  | cons member later inductionHypothesis =>
      exact congrArg (· + 1) inductionHypothesis

theorem exists_member_of_mem_outcomes {outcome : Except AccessError PermissionMap}
    (isOutcome : outcome ∈ outcomes credentials requested members state) :
    ∃ member ∈ members, ∃ before, (member credentials requested before).1 = outcome := by
  induction members generalizing state with
  | nil => simp [outcomes] at isOutcome
  | cons member later inductionHypothesis =>
      rcases List.mem_cons.1 isOutcome with rfl | isLater
      · exact ⟨member, by simp, state, rfl⟩
      · rcases inductionHypothesis isLater with ⟨other, otherMem, before, isFound⟩
        exact ⟨other, List.mem_cons_of_mem _ otherMem, before, isFound⟩

section Asked

variable {member : Resolver σ} {later : List (Resolver σ)} {middle : σ}

theorem union_cons_of_ok {found : PermissionMap}
    (asked : member credentials requested state = (.ok found, middle)) :
    (union (member :: later) credentials requested state).1 =
      (union later credentials requested middle).1.map (PermissionMap.merge found) := by
  rw [union, Resolution.run_bind, asked]
  simp only [Resolution.run_bind]
  rcases union later credentials requested middle with ⟨error | rest, last⟩
  · rfl
  · rfl

theorem union_cons_of_error {error : AccessError}
    (asked : member credentials requested state = (.error error, middle)) :
    union (member :: later) credentials requested state = (.error error, middle) := by
  rw [union, Resolution.run_bind, asked]

end Asked

theorem union_of_outcomes_ok {founds : List PermissionMap}
    (succeeded : outcomes credentials requested members state = founds.map .ok) :
    (union members credentials requested state).1 = .ok (PermissionMap.mergeAll founds) := by
  induction members generalizing founds state with
  | nil =>
      rw [outcomes, eq_comm, List.map_eq_nil_iff] at succeeded
      rw [succeeded]
      rfl
  | cons member later inductionHypothesis =>
      rcases asked : member credentials requested state with ⟨outcome, middle⟩
      simp only [outcomes, asked] at succeeded
      cases founds with
      | nil => cases succeeded
      | cons found rest =>
          rcases List.cons.inj succeeded with ⟨rfl, succeededLater⟩
          rw [union_cons_of_ok asked, inductionHypothesis succeededLater]
          rfl

theorem union_of_outcomes_error {founds : List PermissionMap} {error : AccessError}
    {after : List (Except AccessError PermissionMap)}
    (failed : outcomes credentials requested members state =
      founds.map .ok ++ .error error :: after) :
    (union members credentials requested state).1 = .error error := by
  induction members generalizing founds state with
  | nil => simp [outcomes] at failed
  | cons member later inductionHypothesis =>
      rcases asked : member credentials requested state with ⟨outcome, middle⟩
      simp only [outcomes, asked] at failed
      cases founds with
      | nil =>
          rcases List.cons.inj failed with ⟨rfl, _⟩
          rw [union_cons_of_error asked]
      | cons found rest =>
          rcases List.cons.inj failed with ⟨rfl, failedLater⟩
          rw [union_cons_of_ok asked, inductionHypothesis failedLater]
          rfl

/-- What a union finds is merged from what its members find, each in some state. -/
theorem exists_of_union_eq_ok {merged : PermissionMap}
    (isFound : (union members credentials requested state).1 = .ok merged) :
    ∃ founds, outcomes credentials requested members state = founds.map .ok ∧
      merged = PermissionMap.mergeAll founds := by
  rcases exists_founds (outcomes credentials requested members state) with
    ⟨founds, succeeded⟩ | ⟨founds, error, after, failed⟩
  · rw [union_of_outcomes_ok succeeded, Except.ok.injEq] at isFound
    exact ⟨founds, succeeded, isFound.symm⟩
  · rw [union_of_outcomes_error failed] at isFound
    cases isFound

theorem union_append (first second : List (Resolver σ)) (credentials : Credentials)
    (requested : AccessMap) :
    union (first ++ second) credentials requested =
      union first credentials requested >>= fun found =>
        PermissionMap.merge found <$> union second credentials requested := by
  induction first with
  | nil =>
      have mergeEmpty : PermissionMap.merge ∅ = id := funext PermissionMap.empty_merge
      simp [union, mergeEmpty]
  | cons member later inductionHypothesis =>
      have mergeTwice (found others : PermissionMap) :
          PermissionMap.merge (PermissionMap.merge found others) =
            fun rest => PermissionMap.merge found (PermissionMap.merge others rest) :=
        funext (PermissionMap.merge_assoc found others)
      simp [union, inductionHypothesis, mergeTwice]

/-- A union among the members of another may be replaced by its own members. -/
theorem union_flatten (before after : List (Resolver σ)) (members : List (Resolver σ)) :
    union (before ++ union members :: after) = union (before ++ members ++ after) := by
  funext credentials requested
  rw [List.append_assoc, union_append, union_append, union_append, union]
  simp

/-- What a union of resolvers comes to, as what its members come to decides it. -/
structure PointwiseUnion (members : List (Resolver σ)) (credentials : Credentials)
    (requested : AccessMap) (state : σ) : Prop where
  /-- The first member that fails decides on the error. -/
  fails : ∀ (founds : List PermissionMap) error after,
    outcomes credentials requested members state = founds.map .ok ++ .error error :: after →
      (union members credentials requested state).1 = .error error
  /-- If none fails, the union says of each target what some member says of it. -/
  succeeds : ∀ founds : List PermissionMap,
    outcomes credentials requested members state = founds.map .ok →
    ∃ merged, (union members credentials requested state).1 = .ok merged ∧
      ∀ target aspect, PermissionMap.Shows merged target aspect ↔
        ∃ found ∈ founds, PermissionMap.Shows found target aspect
  /-- Members that always find the same may be reordered and repeated. -/
  rearranged : ∀ (found : Resolver σ → PermissionMap) (others : List (Resolver σ)) (later : σ),
    (∀ member ∈ members, ∀ before, (member credentials requested before).1 = .ok (found member)) →
    (∀ member, member ∈ others ↔ member ∈ members) →
      (union others credentials requested later).1 = (union members credentials requested state).1
  /-- The members may be put where their union stands among other resolvers. -/
  flattened : ∀ before after : List (Resolver σ),
    union (before ++ union members :: after) = union (before ++ members ++ after)

theorem outcomes_of_always {found : Resolver σ → PermissionMap}
    (always : ∀ member ∈ members, ∀ before,
      (member credentials requested before).1 = .ok (found member)) :
    outcomes credentials requested members state = (members.map found).map .ok := by
  induction members generalizing state with
  | nil => rfl
  | cons member later inductionHypothesis =>
      rcases List.forall_mem_cons.1 always with ⟨alwaysFirst, alwaysLater⟩
      have isFound := alwaysFirst state
      rcases asked : member credentials requested state with ⟨outcome, middle⟩
      rw [asked] at isFound
      simpa [outcomes, asked, inductionHypothesis alwaysLater] using isFound

/-- A union of resolvers is their pointwise union. -/
theorem union_is_pointwise (members : List (Resolver σ)) (credentials : Credentials)
    (requested : AccessMap) (state : σ) : PointwiseUnion members credentials requested state := by
  constructor
  · intro founds error after failed
    exact union_of_outcomes_error failed
  · intro founds succeeded
    exact ⟨_, union_of_outcomes_ok succeeded, PermissionMap.shows_mergeAll founds⟩
  · intro found others later always sameMembers
    have alwaysOther : ∀ member ∈ others, ∀ before,
        (member credentials requested before).1 = .ok (found member) := by
      intro member memberMem
      exact always member ((sameMembers member).1 memberMem)
    rw [union_of_outcomes_ok (outcomes_of_always always),
      union_of_outcomes_ok (outcomes_of_always alwaysOther)]
    apply congrArg Except.ok
    apply PermissionMap.mergeAll_congr
    intro merged
    simp only [List.mem_map, sameMembers]
  · intro before after
    exact union_flatten before after members

end Resolver

end LinkedAccess
