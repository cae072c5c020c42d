import LinkedAccess.Authorize
import LinkedAccess.Proofs.Union

/-!
# Decisions

A request may proceed if each mode that it needs on a target is shown for some group of the target's
entry. If it may not, the least target that lacks a mode is reported with all the modes it lacks, so
the decision and its error depend on which modes are covered and on nothing else. What covers more
therefore never turns an allowed request into a denied one, and the target that is reported moves
onwards or lacks fewer modes.
-/

namespace LinkedAccess

namespace PermissionSet

/-- What a request may do is what some group may do. -/
theorem allows_iff {permissions : PermissionSet} {mode : Mode} :
    permissions.allows mode = true ↔ ∃ group, permissions.Has (.mode group mode) := by
  have onGroups : (∃ group, permissions.Has (.mode group mode)) ↔
      permissions.Has (.mode .everyone mode) ∨ permissions.Has (.mode .agent mode) := by
    constructor
    · rintro ⟨group, has⟩
      cases group with
      | everyone => exact Or.inl has
      | agent => exact Or.inr has
    · rintro (has | has)
      · exact ⟨.everyone, has⟩
      · exact ⟨.agent, has⟩
  rw [onGroups]
  rcases permissions with ⟨everyone, agent⟩
  cases everyone <;> cases agent <;> simp [allows, effective, toList, Group.all, get?, Has]

end PermissionSet

namespace PermissionMap

/-- Some group is granted a mode by the entry for a target. -/
def Covers (available : PermissionMap) (target : Identifier) (mode : Mode) : Prop :=
  ∃ group, available.Shows target (.mode group mode)

/-- The maps that come of a map when sets are merged into its entries and entries are added. -/
inductive Extends (available : PermissionMap) : PermissionMap → Prop where
  | refl : Extends available available
  | merged {extended : PermissionMap} (before : Extends available extended) (target : Identifier)
      (permissions further : PermissionSet)
      (isThere : AscendingMap.get? extended target = some permissions) :
      Extends available (extended.insert target (permissions.merge further))
  | added {extended : PermissionMap} (before : Extends available extended) (target : Identifier)
      (permissions : PermissionSet) (isNew : AscendingMap.get? extended target = none) :
      Extends available (extended.insert target permissions)

variable {available extended : PermissionMap} {target : Identifier} {needed : Modes} {mode : Mode}

theorem covers_iff :
    available.Covers target mode ↔
      (AscendingMap.get? available target).any (·.allows mode) = true := by
  cases isFound : AscendingMap.get? available target with
  | none => simp [Covers, Shows, isFound]
  | some permissions => simp [Covers, Shows, isFound, PermissionSet.allows_iff]

/-- An entry that is replaced by one that shows as much shows no less afterwards. -/
theorem Shows.insert {aspect : PermissionSet.Aspect} (isShown : available.Shows target aspect)
    {other : Identifier} {permissions : PermissionSet}
    (showsNoLess : other = target → permissions.Has aspect) :
    PermissionMap.Shows (AscendingMap.insert available other permissions) target aspect := by
  rcases isShown with ⟨previous, isFound, has⟩
  by_cases same : target = other
  · exact ⟨permissions, by rw [AscendingMap.get?_insert, if_pos same], showsNoLess same.symm⟩
  · exact ⟨previous, by rw [AscendingMap.get?_insert, if_neg same, isFound], has⟩

theorem Extends.covers (isExtended : available.Extends extended)
    (covers : available.Covers target mode) : extended.Covers target mode := by
  induction isExtended with
  | refl => exact covers
  | merged _ other permissions further isThere inductionHypothesis =>
      rcases inductionHypothesis with ⟨group, isShown⟩
      refine ⟨group, isShown.insert ?_⟩
      rintro rfl
      rcases isShown with ⟨previous, isFound, has⟩
      rw [isThere, Option.some.injEq] at isFound
      rw [← isFound] at has
      exact (PermissionSet.has_merge permissions further _).2 (Or.inl has)
  | added _ other permissions isNew inductionHypothesis =>
      rcases inductionHypothesis with ⟨group, isShown⟩
      refine ⟨group, isShown.insert ?_⟩
      rintro rfl
      rcases isShown with ⟨previous, isFound, _⟩
      rw [isNew] at isFound
      cases isFound

end PermissionMap

section Decision

variable {credentials : Credentials} {requested : AccessMap} {available extended : PermissionMap}
  {target : Identifier} {needed missing : Modes} {mode : Mode} {error : AccessError}

theorem mem_missingModes :
    mode ∈ missingModes available target needed ↔
      mode ∈ needed ∧ ¬available.Covers target mode := by
  rw [missingModes, AscendingSet.mem_filter, PermissionMap.covers_iff, Bool.not_eq_true',
    Bool.not_eq_true]

theorem isEmpty_missingModes_iff :
    (missingModes available target needed).isEmpty = true ↔
      ∀ mode ∈ needed, available.Covers target mode := by
  rw [AscendingSet.isEmpty, List.isEmpty_iff, List.eq_nil_iff_forall_not_mem]
  simp only [← AscendingSet.mem_iff_mem_toList, mem_missingModes, not_and, Classical.not_not]

theorem Credentials.denial_inj {other : Identifier} {lacking : Modes} :
    credentials.denial target missing = credentials.denial other lacking ↔
      target = other ∧ missing = lacking := by
  cases isAsserted : credentials.isAuthenticated with
  | true => simp [denial, isAsserted]
  | false => simp [denial, isAsserted]

theorem authorizeTargets_eq_ok_iff {entries : List (Identifier × Modes)} :
    authorizeTargets credentials available entries = .ok () ↔
      ∀ entry ∈ entries, ∀ mode ∈ entry.2, available.Covers entry.1 mode := by
  induction entries with
  | nil => simp [authorizeTargets]
  | cons entry later inductionHypothesis =>
      rw [authorizeTargets, List.forall_mem_cons, ← isEmpty_missingModes_iff]
      cases isEmpty : (missingModes available entry.1 entry.2).isEmpty with
      | true => simp [inductionHypothesis]
      | false => simp

theorem of_authorizeTargets_eq_error {entries : List (Identifier × Modes)}
    (refused : authorizeTargets credentials available entries = .error error) :
    ∃ front target needed back, entries = front ++ (target, needed) :: back ∧
      (∀ entry ∈ front, ∀ mode ∈ entry.2, available.Covers entry.1 mode) ∧
      ¬(∀ mode ∈ needed, available.Covers target mode) ∧
      error = credentials.denial target (missingModes available target needed) := by
  induction entries with
  | nil => cases refused
  | cons entry later inductionHypothesis =>
      rcases entry with ⟨target, needed⟩
      rw [authorizeTargets] at refused
      by_cases isCovered : ∀ mode ∈ needed, available.Covers target mode
      · simp only [isEmpty_missingModes_iff.2 isCovered, if_true] at refused
        rcases inductionHypothesis refused with
          ⟨front, other, lacking, back, rfl, onFront, isUncovered, errorEq⟩
        exact ⟨(target, needed) :: front, other, lacking, back, rfl,
          List.forall_mem_cons.2 ⟨isCovered, onFront⟩, isUncovered, errorEq⟩
      · simp only [← isEmpty_missingModes_iff, Bool.not_eq_true] at isCovered
        simp only [isCovered, Bool.false_eq_true, if_false, Except.error.injEq] at refused
        refine ⟨[], target, needed, later, rfl, by simp, ?_, refused.symm⟩
        rw [← isEmpty_missingModes_iff, isCovered]
        exact Bool.false_ne_true

/-- A target is the first of a request that lacks modes, and these are the modes that it lacks. -/
structure FallsShort (requested : AccessMap) (available : PermissionMap) (target : Identifier)
    (missing : Modes) : Prop where
  lacks : ∃ needed, requested.get? target = some needed ∧
    ∀ mode, mode ∈ missing ↔ mode ∈ needed ∧ ¬available.Covers target mode
  nonempty : ∃ mode, mode ∈ missing
  isFirst : ∀ earlier needed, compare earlier target = .lt → requested.get? earlier = some needed →
    ∀ mode ∈ needed, available.Covers earlier mode

theorem authorize_eq_ok_iff :
    authorize credentials requested available = .ok () ↔
      ∀ target needed, requested.get? target = some needed →
        ∀ mode ∈ needed, available.Covers target mode := by
  rw [authorize, authorizeTargets_eq_ok_iff, Prod.forall]
  simp only [AscendingMap.mem_toList]

theorem exists_fallsShort_of_authorize_eq_error
    (refused : authorize credentials requested available = .error error) :
    ∃ target missing, FallsShort requested available target missing ∧
      error = credentials.denial target missing := by
  rcases of_authorizeTargets_eq_error refused with
    ⟨front, target, needed, back, split, onFront, isUncovered, errorEq⟩
  have isRequested : requested.get? target = some needed := by
    rw [← AscendingMap.mem_toList, split]
    exact List.mem_append_right _ List.mem_cons_self
  refine ⟨target, _, ⟨⟨needed, isRequested, fun mode => mem_missingModes⟩, ?_, ?_⟩, errorEq⟩
  · rw [← isEmpty_missingModes_iff, AscendingSet.isEmpty, List.isEmpty_iff] at isUncovered
    exact List.exists_mem_of_ne_nil _ isUncovered
  · intro earlier others less isRequestedToo
    apply onFront (earlier, others)
    rw [AscendingMap.mem_front_iff split, AscendingMap.mem_toList]
    exact ⟨isRequestedToo, less⟩

/-- Where more is covered, the first target that falls short does not come earlier, and if it is the
same it lacks no other modes. -/
theorem FallsShort.onwards {other : Identifier} {lacking : Modes}
    (short : FallsShort requested available target missing)
    (shortToo : FallsShort requested extended other lacking)
    (coversMore : ∀ target mode, available.Covers target mode → extended.Covers target mode) :
    compare target other = .lt ∨ other = target ∧ ∀ mode ∈ lacking, mode ∈ missing := by
  rcases short.lacks with ⟨needed, isRequested, mem_missing⟩
  rcases shortToo.lacks with ⟨others, isRequestedToo, mem_lacking⟩
  -- An earlier target would have been covered before, and so it would be now.
  cases order : compare target other with
  | lt => exact Or.inl rfl
  | eq =>
      cases Std.LawfulEqOrd.eq_of_compare order
      rw [isRequested, Option.some.injEq] at isRequestedToo
      subst isRequestedToo
      refine Or.inr ⟨rfl, fun mode modeMem => ?_⟩
      rcases (mem_lacking mode).1 modeMem with ⟨isNeeded, isUncovered⟩
      exact (mem_missing mode).2 ⟨isNeeded, fun covers => isUncovered (coversMore _ _ covers)⟩
  | gt =>
      rcases shortToo.nonempty with ⟨mode, modeMem⟩
      rcases (mem_lacking mode).1 modeMem with ⟨isNeeded, isUncovered⟩
      have covers := short.isFirst other others (Std.OrientedCmp.lt_of_gt order) isRequestedToo mode
        isNeeded
      exact absurd (coversMore _ _ covers) isUncovered

/-- What is decided on a request. -/
structure DecidesByCoverage (credentials : Credentials) (requested : AccessMap)
    (available : PermissionMap) : Prop where
  /-- It may proceed if everything that it needs is covered. -/
  allows : authorize credentials requested available = .ok () ↔
    ∀ target needed, requested.get? target = some needed →
      ∀ mode ∈ needed, available.Covers target mode
  /-- If it may not, the error names the first target that lacks modes, and the modes. -/
  denies : ∀ error, authorize credentials requested available = .error error →
    ∃ target missing, FallsShort requested available target missing ∧
      (∀ webId, credentials.agent = some webId → error = .forbidden target missing) ∧
      (credentials.agent = none → error = .unauthorized target missing)
  /-- What may proceed may also proceed where more is available. -/
  keeps : ∀ extended, available.Extends extended →
    authorize credentials requested available = .ok () →
      authorize credentials requested extended = .ok ()
  /-- What may not proceed may do so where more is available, or it is refused for a later target,
  or for some of the same modes on the same target. -/
  advances : ∀ extended, available.Extends extended → ∀ target missing,
    authorize credentials requested available = .error (credentials.denial target missing) →
      authorize credentials requested extended = .ok () ∨
      ∃ other lacking,
        authorize credentials requested extended = .error (credentials.denial other lacking) ∧
        (compare target other = .lt ∨ other = target ∧ ∀ mode ∈ lacking, mode ∈ missing)

/-- Every decision is one by coverage. -/
theorem authorize_decides_by_coverage (credentials : Credentials) (requested : AccessMap)
    (available : PermissionMap) : DecidesByCoverage credentials requested available := by
  constructor
  · exact authorize_eq_ok_iff
  · intro error refused
    rcases exists_fallsShort_of_authorize_eq_error refused with ⟨target, missing, short, rfl⟩
    refine ⟨target, missing, short, ?_, ?_⟩
    · intro webId isAsserted
      simp [Credentials.denial, Credentials.isAuthenticated, isAsserted]
    · intro isAbsent
      simp [Credentials.denial, Credentials.isAuthenticated, isAbsent]
  · intro extended isExtended allowed
    rw [authorize_eq_ok_iff] at allowed ⊢
    intro target needed isRequested mode isNeeded
    exact isExtended.covers (allowed target needed isRequested mode isNeeded)
  · intro extended isExtended target missing refused
    rcases exists_fallsShort_of_authorize_eq_error refused with ⟨_, _, short, same⟩
    rcases Credentials.denial_inj.1 same with ⟨rfl, rfl⟩
    cases refusedToo : authorize credentials requested extended with
    | ok _ => exact Or.inl rfl
    | error error =>
        rcases exists_fallsShort_of_authorize_eq_error refusedToo with
          ⟨other, lacking, shortToo, rfl⟩
        refine Or.inr ⟨other, lacking, rfl, ?_⟩
        exact short.onwards shortToo fun _ _ => isExtended.covers

end Decision

end LinkedAccess
