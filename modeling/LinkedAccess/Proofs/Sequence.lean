import LinkedAccess.AccessError

/-!
# Sequences of accesses

Accesses follow each other until one of them fails, and what was accessed before is not accessed
again. `continuing` is the part of a sequence that is left after an outcome, and `unseen` the part
that is left by what came before. Both go on from where a first part of a sequence has led.
-/

namespace LinkedAccess

variable {α β γ : Type}

/-- What is done after an outcome, which is nothing if the outcome is an error. -/
def continuing (outcome : Except AccessError α) (later : List γ) : List γ :=
  match outcome with
  | .ok _ => later
  | .error _ => []

section Continuing

@[simp]
theorem continuing_nil (outcome : Except AccessError α) :
    continuing outcome ([] : List γ) = [] := by
  cases outcome with
  | ok value => rfl
  | error error => rfl

theorem continuing_bind (first : Except AccessError α) (second : Except AccessError β)
    (later : List γ) :
    continuing (first >>= fun _ => second) later = continuing first (continuing second later) := by
  cases first with
  | ok value => rfl
  | error error => rfl

theorem continuing_isPrefix (outcome : Except AccessError α) {later whole : List γ}
    (isPrefix : later <+: whole) : continuing outcome later <+: whole := by
  cases outcome with
  | ok value => exact isPrefix
  | error error => exact List.nil_prefix

end Continuing

variable [DecidableEq γ]

/-- The elements of a list that are not among others, each where it comes first. -/
def unseen (seen elements : List γ) : List γ :=
  (elements.filter fun element => element ∉ seen).eraseDups

section Unseen

variable {seen : List γ}

@[simp]
theorem unseen_nil : unseen seen [] = [] := rfl

theorem unseen_empty (elements : List γ) : unseen [] elements = elements.eraseDups := by
  have keepsAll : elements.filter (fun element => element ∉ ([] : List γ)) = elements :=
    List.filter_eq_self.2 (by simp)
  rw [unseen, keepsAll]

@[simp]
theorem mem_unseen {elements : List γ} {element : γ} :
    element ∈ unseen seen elements ↔ element ∈ elements ∧ element ∉ seen := by
  simp [unseen]

theorem unseen_cons (element : γ) (later : List γ) :
    unseen seen (element :: later) =
      (if element ∈ seen then [] else [element]) ++ unseen (seen ++ [element]) later := by
  by_cases isSeen : element ∈ seen
  · have sameFilter : later.filter (fun other => other ∉ seen ++ [element]) =
        later.filter fun other => other ∉ seen := by
      apply List.filter_congr
      intro other _
      grind
    rw [if_pos isSeen, List.nil_append, unseen, unseen, sameFilter,
      List.filter_cons_of_neg (by simpa using isSeen)]
  · have thenOthers : later.filter (fun other => other ∉ seen ++ [element]) =
        (later.filter fun other => other ∉ seen).filter fun other => !other == element := by
      rw [List.filter_filter]
      apply List.filter_congr
      intro other _
      grind
    rw [if_neg isSeen, List.singleton_append, unseen, unseen, thenOthers,
      List.filter_cons_of_pos (by simpa using isSeen), List.eraseDups_cons]

theorem unseen_cons_of_fresh {element : γ} {later : List γ} (isUnseen : element ∉ seen)
    (isOnce : element ∉ later) :
    unseen seen (element :: later) = element :: unseen seen later := by
  have staysAway : (later.filter fun other => other ∉ seen).filter (fun other => !other == element) =
      later.filter fun other => other ∉ seen := by
    rw [List.filter_eq_self]
    intro other otherMem
    grind
  rw [unseen, unseen, List.filter_cons_of_pos (by simpa using isUnseen), List.eraseDups_cons,
    staysAway]

theorem unseen_eq_nil_iff {elements : List γ} :
    unseen seen elements = [] ↔ ∀ element ∈ elements, element ∈ seen := by
  rw [List.eq_nil_iff_forall_not_mem]
  simp

theorem unseen_append (first second : List γ) :
    unseen seen (first ++ second) = unseen seen first ++ unseen (seen ++ first) second := by
  induction first generalizing seen with
  | nil => rw [List.nil_append, unseen_nil, List.nil_append, List.append_nil]
  | cons element later inductionHypothesis =>
      rw [List.cons_append, unseen_cons, unseen_cons, inductionHypothesis, ← List.append_assoc,
        ← List.append_cons]

theorem nodup_unseen (elements : List γ) : (unseen seen elements).Nodup := by
  induction elements generalizing seen with
  | nil => exact List.nodup_nil
  | cons element later inductionHypothesis =>
      rw [unseen_cons]
      by_cases isSeen : element ∈ seen
      · rw [if_pos isSeen]
        exact inductionHypothesis
      · rw [if_neg isSeen, List.singleton_append, List.nodup_cons]
        exact ⟨by simp, inductionHypothesis⟩

end Unseen

end LinkedAccess
