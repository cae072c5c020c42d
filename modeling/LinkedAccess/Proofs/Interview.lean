import LinkedAccess.Proofs.Settling

/-!
# Resolutions as interviews

All that a resolution learns from a reader are answers, and so what it does next is settled by the
answers so far: it is an `Interview`, the same one with every reader. Whoever keeps a record of an
interview can make answers of it that never change, as long as nothing was asked twice. A resolution
that asks no steady reader twice therefore cannot tell a reader that changes from a steady one, and
asks neither of them twice.
-/

namespace LinkedAccess

/-- What an access is answered with. -/
def Access.Answer : Access → Type
  | .probe _ => Except StorageError Bool
  | .read _ => Except StorageError Graph

/-- An access with the answer it was given. -/
structure Exchange where
  access : Access
  answer : access.Answer

namespace Reader

variable {σ : Type}

/-- The answer to an access, with the state after it. -/
def ask (reader : Reader σ) : (access : Access) → σ → access.Answer × σ
  | .probe identifier => reader.probe identifier
  | .read identifier => reader.read identifier

/-- A reader whose accesses are written down with their answers, the latest last. -/
def recorded (reader : Reader σ) : Reader (List Exchange × σ) where
  probe identifier := fun (record, state) =>
    let (answer, state) := reader.probe identifier state
    (answer, record ++ [⟨.probe identifier, answer⟩], state)
  read identifier := fun (record, state) =>
    let (answer, state) := reader.read identifier state
    (answer, record ++ [⟨.read identifier, answer⟩], state)

theorem ask_recorded (reader : Reader σ) (access : Access) (record : List Exchange) (state : σ) :
    reader.recorded.ask access (record, state) =
      ((reader.ask access state).1, record ++ [⟨access, (reader.ask access state).1⟩],
        (reader.ask access state).2) := by
  cases access with
  | probe identifier => rfl
  | read identifier => rfl

end Reader

namespace Answers

def answer (answers : Answers) : (access : Access) → access.Answer
  | .probe identifier => answers.probe identifier
  | .read identifier => answers.read identifier

theorem ask_logged (answers : Answers) (access : Access) (past : List Access) :
    (answers.reader : Reader Unit).logged.ask access (past, ()) =
      (answers.answer access, past ++ [access], ()) := by
  cases access with
  | probe identifier => rfl
  | read identifier => rfl

/-- The answers with another one for the access of an exchange. -/
def amended (answers : Answers) : Exchange → Answers
  | ⟨.probe identifier, answer⟩ =>
    { answers with
      probe := fun other => if other = identifier then answer else answers.probe other }
  | ⟨.read identifier, answer⟩ =>
    { answers with
      read := fun other => if other = identifier then answer else answers.read other }

theorem answer_amended_self (answers : Answers) (exchange : Exchange) :
    (answers.amended exchange).answer exchange.access = exchange.answer := by
  rcases exchange with ⟨identifier | identifier, given⟩
  · exact if_pos rfl
  · exact if_pos rfl

theorem answer_amended_of_ne (answers : Answers) {exchange : Exchange} {access : Access}
    (differs : access ≠ exchange.access) :
    (answers.amended exchange).answer access = answers.answer access := by
  rcases exchange with ⟨identifier | identifier, given⟩
  · cases access with
    | probe other => exact if_neg fun same => differs (congrArg _ same)
    | read other => rfl
  · cases access with
    | probe other => rfl
    | read other => exact if_neg fun same => differs (congrArg _ same)

/-- Answers that agree with a record in which nothing is asked twice. -/
def ofRecord : List Exchange → Answers
  | [] => ⟨fun _ => .ok false, fun _ => .ok ∅⟩
  | exchange :: later => (ofRecord later).amended exchange

end Answers

/-- The answer of an exchange is the one that the answers hold for it. -/
def Exchange.Agrees (answers : Answers) (exchange : Exchange) : Prop :=
  answers.answer exchange.access = exchange.answer

namespace Exchange.Agrees

variable {answers : Answers} {record : List Exchange} {exchange : Exchange}

theorem eq (agrees : exchange.Agrees answers) :
    exchange = ⟨exchange.access, answers.answer exchange.access⟩ := by
  rcases exchange with ⟨access, answer⟩
  exact congrArg (Exchange.mk access) agrees.symm

theorem eq_of_access_eq {other : Exchange} (agrees : exchange.Agrees answers)
    (agreesToo : other.Agrees answers) (same : other.access = exchange.access) :
    other = exchange := by
  rw [agrees.eq, agreesToo.eq, same]

/-- What was asked was answered as the answers have it. -/
theorem mem_record (agrees : exchange.Agrees answers)
    (agree : ∀ other ∈ record, other.Agrees answers)
    (isAsked : exchange.access ∈ record.map (·.access)) : exchange ∈ record := by
  rcases List.mem_map.1 isAsked with ⟨other, otherMem, same⟩
  rwa [agrees.eq_of_access_eq (agree other otherMem) same] at otherMem

theorem getLast?_record (agrees : exchange.Agrees answers)
    (agree : ∀ other ∈ record, other.Agrees answers)
    (isLast : (record.map (·.access)).getLast? = some exchange.access) :
    record.getLast? = some exchange := by
  rw [List.getLast?_map, Option.map_eq_some_iff] at isLast
  rcases isLast with ⟨other, isLast, same⟩
  rw [isLast, agrees.eq_of_access_eq (agree other (List.mem_of_getLast? isLast)) same]

end Exchange.Agrees

theorem agrees_ofRecord {record : List Exchange} (once : (record.map (·.access)).Nodup) :
    ∀ exchange ∈ record, exchange.Agrees (.ofRecord record) := by
  induction record with
  | nil =>
      intro exchange impossible
      cases impossible
  | cons first later inductionHypothesis =>
      rw [List.map_cons, List.nodup_cons] at once
      intro exchange exchangeMem
      rcases List.mem_cons.1 exchangeMem with rfl | isLater
      · exact Answers.answer_amended_self _ _
      · have differs : exchange.access ≠ first.access :=
          fun same => once.1 (same ▸ List.mem_map_of_mem isLater)
        rw [Exchange.Agrees, Answers.ofRecord, Answers.answer_amended_of_ne _ differs]
        exact inductionHypothesis once.2 exchange isLater

/-- What is asked next, and how it goes on with each answer, up to a value. -/
inductive Interview (α : Type) where
  | done (value : α)
  | ask (access : Access) (next : access.Answer → Interview α)

namespace Interview

variable {σ α β : Type}

/-- The value of an interview, with each access made by a reader. -/
def conduct (reader : Reader σ) : Interview α → σ → α × σ
  | done value, state => (value, state)
  | ask access next, state =>
    let (answer, later) := reader.ask access state
    (next answer).conduct reader later

def bind (next : α → Interview β) : Interview α → Interview β
  | done value => next value
  | ask access onward => ask access fun answer => (onward answer).bind next

theorem conduct_bind (reader : Reader σ) (interview : Interview α) (next : α → Interview β)
    (state : σ) :
    (interview.bind next).conduct reader state =
      (next (interview.conduct reader state).1).conduct reader
        (interview.conduct reader state).2 := by
  induction interview generalizing state with
  | done value => rfl
  | ask access onward inductionHypothesis => exact inductionHypothesis _ _

/-- An interview comes to a value by the exchanges of a list. -/
inductive Leads : Interview α → List Exchange → α → Prop where
  | done (value : α) : Leads (done value) [] value
  | ask {access : Access} {next : access.Answer → Interview α} (answer : access.Answer)
      {record : List Exchange} {value : α} (later : Leads (next answer) record value) :
      Leads (ask access next) (⟨access, answer⟩ :: record) value

/-- Keeping a record changes nothing, and the record holds the exchanges that led to the value. -/
theorem conduct_recorded (reader : Reader σ) (interview : Interview α) (past : List Exchange)
    (state : σ) :
    ∃ record, interview.conduct reader.recorded (past, state) =
        ((interview.conduct reader state).1, past ++ record, (interview.conduct reader state).2) ∧
      interview.Leads record (interview.conduct reader state).1 := by
  induction interview generalizing past state with
  | done value =>
      refine ⟨[], ?_, .done value⟩
      rw [List.append_nil]
      rfl
  | ask access next inductionHypothesis =>
      rw [conduct, Reader.ask_recorded]
      rcases inductionHypothesis (reader.ask access state).1
        (past ++ [⟨access, (reader.ask access state).1⟩]) (reader.ask access state).2 with
        ⟨record, recordedRun, leads⟩
      rw [← List.append_cons] at recordedRun
      exact ⟨⟨access, (reader.ask access state).1⟩ :: record, recordedRun, .ask _ leads⟩

/-- With answers that agree with a record an interview goes as recorded. -/
theorem Leads.conduct_logged {interview : Interview α} {record : List Exchange} {value : α}
    (leads : interview.Leads record value) {answers : Answers}
    (agree : ∀ exchange ∈ record, exchange.Agrees answers) (past : List Access) :
    interview.conduct (answers.reader : Reader Unit).logged (past, ()) =
      (value, past ++ record.map (·.access), ()) := by
  induction leads generalizing past with
  | done value => rw [conduct, List.map_nil, List.append_nil]
  | @ask access next answer record value later inductionHypothesis =>
      rcases List.forall_mem_cons.1 agree with ⟨agreesHere, onLater⟩
      rw [conduct, Answers.ask_logged, show answers.answer access = answer from agreesHere,
        List.map_cons, List.append_cons past access (record.map (·.access))]
      exact inductionHypothesis onLater _

theorem isPrefix_conduct_logged (answers : Answers) (interview : Interview α)
    (past : List Access) :
    past <+: (interview.conduct (answers.reader : Reader Unit).logged (past, ())).2.1 := by
  induction interview generalizing past with
  | done value => exact List.prefix_refl past
  | ask access next inductionHypothesis =>
      rw [conduct, Answers.ask_logged]
      exact (List.prefix_append past [access]).trans (inductionHypothesis _ _)

/-- As far as answers agree with a record they make an interview ask what was asked, and so the next
access is the recorded one too. -/
theorem Leads.isPrefix_conduct_logged {interview : Interview α} {before after : List Exchange}
    {exchange : Exchange} {value : α} (leads : interview.Leads (before ++ exchange :: after) value)
    {answers : Answers} (agree : ∀ other ∈ before, other.Agrees answers) (past : List Access) :
    past ++ (before ++ [exchange]).map (·.access) <+:
      (interview.conduct (answers.reader : Reader Unit).logged (past, ())).2.1 := by
  induction before generalizing interview past with
  | nil =>
      cases leads with
      | ask answer later =>
          rw [conduct, Answers.ask_logged]
          exact Interview.isPrefix_conduct_logged answers _ _
  | cons first before inductionHypothesis =>
      rcases List.forall_mem_cons.1 agree with ⟨agreesHere, onLater⟩
      cases leads with
      | @ask access _ answer _ _ later =>
          rw [conduct, Answers.ask_logged, show answers.answer access = answer from agreesHere,
            List.cons_append, List.map_cons,
            List.append_cons past access ((before ++ [exchange]).map (·.access))]
          exact inductionHypothesis later onLater _

/-- If nothing is asked twice of steady readers, no record has an access twice. -/
theorem Leads.nodup {interview : Interview α} {record : List Exchange} {value : α}
    (leads : interview.Leads record value)
    (steadyOnce : ∀ answers : Answers,
      (interview.conduct (answers.reader : Reader Unit).logged ([], ())).2.1.Nodup) :
    (record.map (·.access)).Nodup := by
  have grows (before after : List Exchange) (split : before ++ after = record)
      (once : (before.map (·.access)).Nodup) : (record.map (·.access)).Nodup := by
    induction after generalizing before with
    | nil =>
        rw [List.append_nil] at split
        rwa [← split]
    | cons exchange after inductionHypothesis =>
        refine inductionHypothesis (before ++ [exchange]) ?_ ?_
        · rw [List.append_assoc]
          exact split
        · -- Up to here there are answers that agree, and with them the next access is the same.
          subst split
          have isPrefix := leads.isPrefix_conduct_logged (agrees_ofRecord once) []
          rw [List.nil_append] at isPrefix
          exact (steadyOnce _).sublist isPrefix.sublist
  exact grows [] record rfl List.nodup_nil

end Interview

/-- A computation that is the same interview with every reader. -/
def Asks {α : Type} (program : (σ : Type) → Reader σ → σ → α × σ) : Prop :=
  ∃ interview : Interview α, ∀ (σ : Type) (reader : Reader σ) (state : σ),
    program σ reader state = interview.conduct reader state

namespace Asks

variable {α β : Type}

theorem pure (value : α) : Asks fun _ _ state => (value, state) :=
  ⟨.done value, fun _ _ _ => rfl⟩

theorem ask (access : Access) : Asks fun _ reader => reader.ask access :=
  ⟨.ask access .done, fun _ _ _ => rfl⟩

theorem bind {first : (σ : Type) → Reader σ → σ → α × σ}
    {next : α → (σ : Type) → Reader σ → σ → β × σ} (asks : Asks first)
    (asksNext : ∀ value, Asks (next value)) :
    Asks fun σ reader state => next (first σ reader state).1 σ reader (first σ reader state).2 := by
  rcases asks with ⟨interview, conducts⟩
  rcases Classical.axiomOfChoice asksNext with ⟨onward, conductsNext⟩
  refine ⟨interview.bind onward, fun σ reader state => ?_⟩
  simp only [Interview.conduct_bind, conductsNext, conducts]

theorem congr {first second : (σ : Type) → Reader σ → σ → α × σ} (asks : Asks first)
    (same : ∀ (σ : Type) (reader : Reader σ) (state : σ),
      second σ reader state = first σ reader state) : Asks second := by
  rcases asks with ⟨interview, conducts⟩
  exact ⟨interview, fun σ reader state => (same σ reader state).trans (conducts σ reader state)⟩

/-- Who asks nothing twice of steady readers cannot tell any reader from a steady one: the record
agrees with itself, and a reader that answers as recorded is asked the same and leads to the same.
-/
theorem exists_record {program : (σ : Type) → Reader σ → σ → α × σ} (asks : Asks program)
    (steadyOnce : ∀ answers : Answers,
      (program (List Access × Unit) answers.reader.logged ([], ())).2.1.Nodup)
    {σ : Type} (reader : Reader σ) (state : σ) :
    ∃ record, program _ reader.recorded ([], state) =
        ((program σ reader state).1, record, (program σ reader state).2) ∧
      (∀ exchange ∈ record, exchange.Agrees (.ofRecord record)) ∧
      program (List Access × Unit) (Answers.ofRecord record).reader.logged ([], ()) =
        ((program σ reader state).1, record.map (·.access), ()) := by
  rcases asks with ⟨interview, conducts⟩
  simp only [conducts] at steadyOnce ⊢
  rcases interview.conduct_recorded reader [] state with ⟨record, recordedRun, leads⟩
  rw [List.nil_append] at recordedRun
  have agree := agrees_ofRecord (leads.nodup steadyOnce)
  have steadyRun := leads.conduct_logged agree []
  rw [List.nil_append] at steadyRun
  exact ⟨record, recordedRun, agree, steadyRun⟩

end Asks

namespace Resolution

variable {α β : Type}

/-- A resolution that is the same interview with every reader. -/
def IsInterview (program : (σ : Type) → Reader σ → Resolution σ α) : Prop :=
  Asks fun σ reader state => program σ reader state

/-- A resolution that is the same interview with every reader whenever the same is cached. -/
def IsCachedInterview (program : (σ : Type) → Reader σ → Resolution (Cache × σ) α) : Prop :=
  ∀ cache, Asks fun σ reader state =>
    let (outcome, cache, state) := program σ reader (cache, state)
    ((outcome, cache), state)

namespace IsInterview

theorem pure (value : α) : IsInterview fun _ _ => Pure.pure value := Asks.pure _

theorem throw (error : AccessError) :
    IsInterview (fun _ _ => MonadExcept.throw error : (σ : Type) → Reader σ → Resolution σ α) :=
  Asks.pure _

theorem bind {first : (σ : Type) → Reader σ → Resolution σ α}
    {next : α → (σ : Type) → Reader σ → Resolution σ β} (asks : IsInterview first)
    (asksNext : ∀ value, IsInterview (next value)) :
    IsInterview fun σ reader => first σ reader >>= fun value => next value σ reader := by
  have onOutcome (outcome : Except AccessError α) : Asks fun σ reader =>
      ExceptT.bindCont (fun value => next value σ reader) outcome := by
    cases outcome with
    | ok value => exact asksNext value
    | error error => exact Asks.pure _
  exact (Asks.bind asks onOutcome).congr fun _ _ _ => rfl

theorem isPresent (document : Identifier) :
    IsInterview fun _ reader => reader.isPresent document := by
  refine (Asks.bind (.ask (.probe document)) fun answer => Asks.pure (match answer with
    | .ok found => .ok found
    | .error error => if error.isNotFound then .ok false else .error (.ofRead document error))).congr
      fun σ reader state => ?_
  simp only [Reader.isPresent, Reader.ask]
  rcases reader.probe document state with ⟨_ | _, _⟩
  · simp only
    split
    · rfl
    · rfl
  · rfl

end IsInterview

namespace IsCachedInterview

theorem pure (value : α) : IsCachedInterview fun _ _ => Pure.pure value :=
  fun _ => Asks.pure _

theorem throw (error : AccessError) :
    IsCachedInterview
      (fun _ _ => MonadExcept.throw error : (σ : Type) → Reader σ → Resolution (Cache × σ) α) :=
  fun _ => Asks.pure _

theorem bind {first : (σ : Type) → Reader σ → Resolution (Cache × σ) α}
    {next : α → (σ : Type) → Reader σ → Resolution (Cache × σ) β} (asks : IsCachedInterview first)
    (asksNext : ∀ value, IsCachedInterview (next value)) :
    IsCachedInterview fun σ reader => first σ reader >>= fun value => next value σ reader := by
  intro cache
  have onOutcome (result : Except AccessError α × Cache) : Asks fun σ reader state =>
      let (outcome, cache, state) :=
        ExceptT.bindCont (fun value => next value σ reader) result.1 (result.2, state)
      ((outcome, cache), state) := by
    rcases result with ⟨error | value, later⟩
    · exact Asks.pure _
    · exact asksNext value later
  exact (Asks.bind (asks cache) onOutcome).congr fun _ _ _ => rfl

theorem load (document : Identifier) (absence : Absence) :
    IsCachedInterview fun _ reader => reader.load document absence := by
  intro cache
  cases isCached : cache.get? document with
  | some graph =>
      refine (Asks.pure (.ok graph, cache)).congr fun σ reader state => ?_
      simp only [Reader.load, isCached]
  | none =>
      let kept (settled : Except AccessError Graph) : Cache :=
        settled.toOption.elim cache (cache.insert document)
      refine (Asks.bind (.ask (.read document)) fun answer => Asks.pure
        (absence.settle document answer, kept (absence.settle document answer))).congr
          fun σ reader state => ?_
      simp only [Reader.load, isCached, Reader.ask]
      rcases reader.read document state with ⟨answer, _⟩
      simp only
      cases absence.settle document answer with
      | ok graph => rfl
      | error error => rfl

theorem withCache {program : (σ : Type) → Reader σ → Resolution (Cache × σ) α}
    (asks : IsCachedInterview program) :
    IsInterview fun σ reader => (program σ reader).withCache :=
  (Asks.bind (asks ∅) fun result => Asks.pure result.1).congr fun _ _ _ => rfl

end IsCachedInterview

end Resolution

end LinkedAccess
