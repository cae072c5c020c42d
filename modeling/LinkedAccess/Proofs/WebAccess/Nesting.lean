import LinkedAccess.Proofs.Presenting
import LinkedAccess.Proofs.WebAccess.Checking

/-!
# Nested checkers

A checker that combines others does what the checkers at its leaves do when they are asked from left
to right until one of them does not say no, down to the cache and to the order of the reads. With a
steady reader every leaf moreover answers as if it were asked alone, because what the others have
put into the cache is what it would have read itself. As long as nothing breaks that could be read,
the leaves may therefore be asked in any order.
-/

namespace LinkedAccess

open Vocabulary

namespace Resolution

variable {σ ι : Type}

/-- Makes the checks of a list one after the other, until one of them does not say no. -/
def inTurn (check : ι → Resolution σ Bool) : List ι → Resolution σ Bool
  | [] => pure false
  | first :: later => fun state =>
    match check first state with
    | (.ok false, state) => inTurn check later state
    | stopped => stopped

theorem inTurn_singleton (check : ι → Resolution σ Bool) (member : ι) :
    inTurn check [member] = check member := by
  funext state
  simp only [inTurn]
  rcases check member state with ⟨_ | _ | _, _⟩
  · rfl
  · rfl
  · rfl

theorem inTurn_append (check : ι → Resolution σ Bool) (first second : List ι) (state : σ) :
    inTurn check (first ++ second) state =
      match inTurn check first state with
      | (.ok false, later) => inTurn check second later
      | stopped => stopped := by
  induction first generalizing state with
  | nil => rfl
  | cons member later inductionHypothesis =>
      simp only [List.cons_append, inTurn]
      rcases check member state with ⟨_ | _ | _, middle⟩
      · rfl
      · exact inductionHypothesis middle
      · rfl

/-- The first answer for the members of a list that is not a no, and a no if there is none. -/
def verdict (answer : ι → Except AccessError Bool) : List ι → Except AccessError Bool
  | [] => .ok false
  | first :: later =>
    match answer first with
    | .ok false => verdict answer later
    | stopped => stopped

section Verdict

variable {answer : ι → Except AccessError Bool} {members : List ι}

theorem verdict_cons_of_no {first : ι} (no : answer first = .ok false) :
    verdict answer (first :: members) = verdict answer members := by
  rw [verdict, no]

theorem verdict_cons_of_stop {first : ι} (stops : answer first ≠ .ok false) :
    verdict answer (first :: members) = answer first := by
  rw [verdict]
  split
  case h_1 no => exact absurd no stops
  case h_2 => rfl

/-- The verdict is a no if all members say no. -/
theorem verdict_eq_no_iff :
    verdict answer members = .ok false ↔ ∀ member ∈ members, answer member = .ok false := by
  induction members with
  | nil => simp [verdict]
  | cons first later inductionHypothesis =>
      rw [List.forall_mem_cons]
      by_cases no : answer first = .ok false
      · rw [verdict_cons_of_no no, inductionHypothesis, and_iff_right no]
      · rw [verdict_cons_of_stop no]
        exact (and_iff_left_of_imp fun isNo => absurd isNo no).symm

/-- An answer that is not a no is the verdict if all members before it say no. -/
theorem verdict_eq_iff {outcome : Except AccessError Bool} (stops : outcome ≠ .ok false) :
    verdict answer members = outcome ↔
      ∃ front member back, members = front ++ member :: back ∧
        (∀ earlier ∈ front, answer earlier = .ok false) ∧ answer member = outcome := by
  constructor
  · intro isVerdict
    induction members with
    | nil => exact absurd isVerdict.symm stops
    | cons first later inductionHypothesis =>
        by_cases no : answer first = .ok false
        · rw [verdict_cons_of_no no] at isVerdict
          rcases inductionHypothesis isVerdict with ⟨front, member, back, rfl, noFront, isOutcome⟩
          exact ⟨first :: front, member, back, rfl, List.forall_mem_cons.2 ⟨no, noFront⟩, isOutcome⟩
        · rw [verdict_cons_of_stop no] at isVerdict
          exact ⟨[], first, later, rfl, by simp, isVerdict⟩
  · rintro ⟨front, member, back, rfl, noFront, rfl⟩
    induction front with
    | nil => exact verdict_cons_of_stop stops
    | cons first later inductionHypothesis =>
        rcases List.forall_mem_cons.1 noFront with ⟨no, noLater⟩
        rw [List.cons_append, verdict_cons_of_no no]
        exact inductionHypothesis noLater

/-- Without errors the verdict does not depend on the order. -/
theorem verdict_eq_any {accepted : ι → Bool}
    (answered : ∀ member ∈ members, answer member = .ok (accepted member)) :
    verdict answer members = .ok (members.any accepted) := by
  induction members with
  | nil => rfl
  | cons first later inductionHypothesis =>
      rcases List.forall_mem_cons.1 answered with ⟨first, onLater⟩
      rw [verdict, first, List.any_cons]
      cases accepted _ with
      | true => rfl
      | false => exact inductionHypothesis onLater

end Verdict

end Resolution

section Yields

variable {σ ι : Type} {reader : Reader σ} {answers seen : Answers}

open Resolution

theorem yields_inTurn {check : ι → Resolution (Cache × σ) Bool}
    {answer : ι → Except AccessError Bool}
    (yields : ∀ member, Yields reader answers seen (check member) (answer member))
    (members : List ι) :
    Yields reader answers seen (inTurn check members) (verdict answer members) := by
  induction members with
  | nil => exact yields_pure false
  | cons first later inductionHypothesis =>
      intro start presents
      rcases yields first start presents with ⟨ends, presentsLater⟩
      simp only [inTurn, verdict, ← ends]
      rcases run : check first start with ⟨_ | _ | _, middle⟩
      all_goals rw [run] at presentsLater
      · exact ⟨rfl, presentsLater⟩
      · exact inductionHypothesis middle presentsLater
      · exact ⟨rfl, presentsLater⟩

end Yields

namespace Checker

/-- A checker that combines no others. -/
inductive Leaf where
  | agent
  | agentClass
  | agentGroup
deriving DecidableEq

def Leaf.checker : Leaf → Checker
  | agent => .agent
  | agentClass => .agentClass
  | agentGroup => .agentGroup

mutual

/-- The leaves of a checker, from left to right. -/
def leaves : Checker → List Leaf
  | agent => [.agent]
  | agentClass => [.agentClass]
  | agentGroup => [.agentGroup]
  | any checkers => leavesOfAll checkers

def leavesOfAll : List Checker → List Leaf
  | [] => []
  | checker :: later => leaves checker ++ leavesOfAll later

end

/-- Asks a leaf. -/
def Leaf.check {σ : Type} (reader : Reader σ) (rules : Graph) (rule : Term)
    (credentials : Credentials) (leaf : Leaf) : Resolution (Cache × σ) Bool :=
  leaf.checker.check reader rules rule credentials

open Resolution

section Leaves

variable {σ : Type} {reader : Reader σ} {rules : Graph} {rule : Term} {credentials : Credentials}

mutual

/-- Whatever the reader is, a checker does what its leaves do in turn. -/
theorem check_eq_inTurn : (checker : Checker) →
    check reader rules rule credentials checker =
      inTurn (Leaf.check reader rules rule credentials) checker.leaves
  | agent => by rw [leaves, inTurn_singleton, Leaf.check, Leaf.checker]
  | agentClass => by rw [leaves, inTurn_singleton, Leaf.check, Leaf.checker]
  | agentGroup => by rw [leaves, inTurn_singleton, Leaf.check, Leaf.checker]
  | any checkers => checkAny_eq_inTurn checkers

theorem checkAny_eq_inTurn : (checkers : List Checker) →
    checkAny reader rules rule credentials checkers =
      inTurn (Leaf.check reader rules rule credentials) (leavesOfAll checkers)
  | [] => rfl
  | checker :: later => by
      funext start
      rw [leavesOfAll, inTurn_append, ← check_eq_inTurn checker, ← checkAny_eq_inTurn later,
        checkAny, run_bind]
      rcases check reader rules rule credentials checker start with ⟨_ | _ | _, middle⟩
      · rfl
      · rfl
      · rfl

end

end Leaves

section Answered

variable {σ : Type} {reader : Reader σ} {answers seen : Answers} {rules : Graph} {rule : Term}
  {credentials : Credentials} {cache : Cache} {state : σ}

/-- What a leaf answers where some answers are presented. -/
def Leaf.answer (seen : Answers) (rules : Graph) (rule : Term) (credentials : Credentials)
    (leaf : Leaf) : Except AccessError Bool :=
  seen.reading (leaf.checker.accepts seen rules rule credentials)
    (leaf.checker.consulted seen rules rule credentials)

theorem reading_groupDocuments_cons (webId group : String) (later : List String) :
    seen.reading ((group :: later).any (seen.lists webId))
        (seen.groupDocuments webId (group :: later)) =
      seen.description (groupDocument group) >>= fun description =>
        if description.holds (.iri group) (.iri Vcard.hasMember) (.iri webId) then .ok true
        else seen.reading (later.any (seen.lists webId)) (seen.groupDocuments webId later) := by
  rw [Answers.groupDocuments, Answers.reading, List.any_cons]
  cases isDescribed : seen.description (groupDocument group) with
  | error error => rfl
  | ok description =>
      have listsEq : description.holds (.iri group) (.iri Vcard.hasMember) (.iri webId) =
          seen.lists webId group := by
        simp only [Answers.lists, isDescribed]
      change _ = if description.holds (.iri group) (.iri Vcard.hasMember) (.iri webId) then _ else _
      rw [listsEq]
      cases seen.lists webId group with
      | true => rfl
      | false => rfl

theorem yields_anyGroupHolds (webId : String) (groups : List String) :
    Yields reader answers seen (anyGroupHolds reader webId groups)
      (seen.reading (groups.any (seen.lists webId)) (seen.groupDocuments webId groups)) := by
  induction groups with
  | nil => exact yields_pure false
  | cons group later inductionHypothesis =>
      rw [reading_groupDocuments_cons]
      refine Yields.bind (reader.yields_load (groupDocument group)) fun description _ => ?_
      cases description.holds (.iri group) (.iri Vcard.hasMember) (.iri webId) with
      | true => exact yields_pure true
      | false => exact inductionHypothesis

theorem yields_checkLeaf (leaf : Leaf) :
    Yields reader answers seen (leaf.check reader rules rule credentials)
      (leaf.answer seen rules rule credentials) := by
  cases leaf with
  | agent => exact yields_pure _
  | agentClass => exact yields_pure _
  | agentGroup =>
      simp only [Leaf.check, Leaf.answer, Leaf.checker, check, namesGroup, accepts, consulted]
      cases credentials.agent with
      | none => exact yields_pure false
      | some webId => exact yields_anyGroupHolds webId _

/-- A document that the leaves of a checker may come to read: one that is not cached, among those
that a leaf asks for. -/
structure CouldRead (answers : Answers) (rules : Graph) (rule : Term) (credentials : Credentials)
    (cache : Cache) (checker : Checker) (document : Identifier) : Prop where
  isAskedFor : ∃ leaf ∈ checker.leaves,
    document ∈ leaf.checker.consulted (answers.behind cache) rules rule credentials
  isFresh : cache.get? document = none

/-- What could be read are documents of groups that the rule names. -/
theorem CouldRead.isNamed {checker : Checker} {document : Identifier}
    (couldRead : CouldRead answers rules rule credentials cache checker document) :
    .agentGroup ∈ checker.leaves ∧ ∃ webId group, credentials.agent = some webId ∧
      ⟨rule, .iri Acl.agentGroup, .iri group⟩ ∈ rules ∧ document = groupDocument group := by
  rcases couldRead.isAskedFor with ⟨leaf, leafMem, isAskedFor⟩
  cases leaf with
  | agent => cases isAskedFor
  | agentClass => cases isAskedFor
  | agentGroup =>
      simp only [Leaf.checker, consulted] at isAskedFor
      cases asserts : credentials.agent with
      | none =>
          rw [asserts] at isAskedFor
          cases isAskedFor
      | some webId =>
          rw [asserts] at isAskedFor
          rcases exists_group_of_mem_groupDocuments isAskedFor with ⟨group, groupMem, documentEq⟩
          exact ⟨leafMem, webId, group, rfl, mem_groupsOf.1 groupMem, documentEq⟩

/-- A leaf fails only because of a document that could be read. -/
theorem Leaf.answer_eq_ok {checker : Checker} {leaf : Leaf} (leafMem : leaf ∈ checker.leaves)
    (safe : ∀ document, CouldRead answers rules rule credentials cache checker document →
      ∀ cause, ¬answers.Breaks document cause) :
    leaf.answer (answers.behind cache) rules rule credentials =
      .ok (leaf.checker.accepts (answers.behind cache) rules rule credentials) := by
  refine Answers.reading_eq_ok_iff.2 ⟨rfl, fun document isAskedFor => ?_⟩
  cases isCached : cache.get? document with
  | some graph => exact ⟨graph, Answers.description_behind_of_cached isCached⟩
  | none =>
      have couldRead : CouldRead answers rules rule credentials cache checker document :=
        ⟨⟨leaf, leafMem, isAskedFor⟩, isCached⟩
      rw [Answers.IsReadable, Answers.description_behind_of_fresh isCached]
      exact Answers.isReadable_iff.2 (safe document couldRead)

/-- How a checker is related to its leaves, in a state. -/
structure ActsByLeaves (reader : Reader σ) (answers : Answers) (rules : Graph) (rule : Term)
    (credentials : Credentials) (cache : Cache) (state : σ) (checker : Checker) : Prop where
  /-- It does what its leaves do from left to right, until one of them does not say no. -/
  leftToRight : checker.check reader rules rule credentials (cache, state) =
    inTurn (Leaf.check reader rules rule credentials) checker.leaves (cache, state)
  /-- It says no if each leaf, asked alone, says no. -/
  no : (checker.check reader rules rule credentials (cache, state)).1 = .ok false ↔
    ∀ leaf ∈ checker.leaves, (leaf.check reader rules rule credentials (cache, state)).1 = .ok false
  /-- Anything else it says is what the first leaf says that, asked alone, does not say no. -/
  stops : ∀ outcome, outcome ≠ .ok false →
    ((checker.check reader rules rule credentials (cache, state)).1 = outcome ↔
      ∃ front leaf back, checker.leaves = front ++ leaf :: back ∧
        (∀ earlier ∈ front,
          (earlier.check reader rules rule credentials (cache, state)).1 = .ok false) ∧
        (leaf.check reader rules rule credentials (cache, state)).1 = outcome)
  /-- If nothing breaks that could be read, a checker with the same leaves in another arrangement
  says the same. -/
  rearranged : (∀ document, CouldRead answers rules rule credentials cache checker document →
      ∀ cause, ¬answers.Breaks document cause) →
    ∀ other : Checker, (∀ leaf, leaf ∈ other.leaves ↔ leaf ∈ checker.leaves) →
      (other.check reader rules rule credentials (cache, state)).1 =
        (checker.check reader rules rule credentials (cache, state)).1

/-- With a steady reader every checker acts by its leaves, also in the accesses that it makes. -/
theorem checkers_act_by_leaves (steady : reader.Steady answers state) (cache : Cache)
    (log : List Access) (rules : Graph) (rule : Term) (credentials : Credentials)
    (checker : Checker) :
    ActsByLeaves reader.logged answers rules rule credentials cache (log, state) checker := by
  -- What is cached at the start and what is answered are one view, which no leaf changes.
  have presents := (steady.logged log).presents cache
  have onLeaf (leaf : Leaf) :
      (leaf.check reader.logged rules rule credentials (cache, log, state)).1 =
        leaf.answer (answers.behind cache) rules rule credentials :=
    (yields_checkLeaf leaf _ presents).1
  have onChecker (checker : Checker) :
      (checker.check reader.logged rules rule credentials (cache, log, state)).1 =
        verdict (Leaf.answer (answers.behind cache) rules rule credentials) checker.leaves := by
    rw [check_eq_inTurn]
    exact (yields_inTurn yields_checkLeaf checker.leaves _ presents).1
  constructor
  case leftToRight => rw [check_eq_inTurn]
  case no =>
    simp only [onLeaf, onChecker]
    exact verdict_eq_no_iff
  case stops =>
    intro outcome stops
    simp only [onLeaf, onChecker]
    exact verdict_eq_iff stops
  case rearranged =>
    intro safe other same
    have answered : ∀ leaf ∈ checker.leaves,
        leaf.answer (answers.behind cache) rules rule credentials =
          .ok (leaf.checker.accepts (answers.behind cache) rules rule credentials) :=
      fun leaf leafMem => Leaf.answer_eq_ok leafMem safe
    rw [onChecker, onChecker, verdict_eq_any answered,
      verdict_eq_any fun leaf leafMem => answered leaf ((same leaf).1 leafMem), Except.ok.injEq,
      Bool.eq_iff_iff, List.any_eq_true, List.any_eq_true]
    simp only [same]

end Answered

/-- A rule for three groups. -/
def clubRule : Graph := .ofList [
  ⟨.iri "#rule", .iri Acl.agentGroup, .iri "board#it"⟩,
  ⟨.iri "#rule", .iri Acl.agentGroup, .iri "club#it"⟩,
  ⟨.iri "#rule", .iri Acl.agentGroup, .iri "staff#it"⟩]

/-- The members of one group are known, another group has no document, and nothing else is read. -/
def clubAnswers : Answers where
  probe _ := .ok true
  read document :=
    if document = ⟨"club"⟩ then .ok (.ofList [⟨.iri "club#it", .iri Vcard.hasMember, .iri "#me"⟩])
    else .error (if document = ⟨"board"⟩ then .notFound document else .backend document "offline")

/-- What could not be read is in the cache. -/
def staffCache : Cache := (∅ : Cache).insert ⟨"staff"⟩ ∅

def nested : Checker := .any [.any [], .any [.agent, .any [.agentGroup]], .agentClass]

theorem arrangements_agree :
    (∀ other : Checker, (∀ leaf, leaf ∈ other.leaves ↔ leaf ∈ nested.leaves) →
      (other.check (clubAnswers.reader : Reader Unit).logged clubRule (.iri "#rule")
        { agent := some "#me" } (staffCache, [], ())).1 = .ok true) ∧
    (nested.check (clubAnswers.reader : Reader Unit).logged clubRule (.iri "#rule")
        { agent := some "#me" } (staffCache, [], ())).2.2.1 =
      [.read ⟨"board"⟩, .read ⟨"club"⟩] := by
  have safe : ∀ document, CouldRead clubAnswers clubRule (.iri "#rule") { agent := some "#me" }
      staffCache nested document → ∀ cause, ¬clubAnswers.Breaks document cause := by
    rintro document couldRead cause ⟨read, isOther⟩
    rcases couldRead.isNamed with ⟨_, _, group, _, isNamed, documentEq⟩
    have isKnown : group = "board#it" ∨ group = "club#it" ∨ group = "staff#it" := by
      simpa [clubRule] using isNamed
    rcases isKnown with rfl | rfl | rfl
    · have isBoard : document = ⟨"board"⟩ := documentEq.trans (by decide +kernel)
      cases read.symm.trans (congrArg clubAnswers.read isBoard)
      cases isOther
    · have isClub : document = ⟨"club"⟩ := documentEq.trans (by decide +kernel)
      cases read.symm.trans (congrArg clubAnswers.read isClub)
    · have isStaff : document = ⟨"staff"⟩ := documentEq.trans (by decide +kernel)
      cases couldRead.isFresh.symm.trans (congrArg staffCache.get? isStaff)
  have acts : ActsByLeaves (clubAnswers.reader : Reader Unit).logged clubAnswers clubRule
      (.iri "#rule") { agent := some "#me" } staffCache ([], ()) nested :=
    checkers_act_by_leaves (clubAnswers.steady_reader ()) staffCache [] clubRule (.iri "#rule")
      { agent := some "#me" } nested
  constructor
  · intro other same
    rw [acts.rearranged safe other same]
    exact toOption_eq_some_iff.1 (by decide +kernel)
  · rw [acts.leftToRight]
    decide +kernel

end Checker

end LinkedAccess
