import LinkedAccess.Proofs.WebAccess.Evaluation

/-!
# Which requests are answered

A document may be there when it is looked for and absent when it is read. Whoever is governed by it
must not be answered then as if it were empty. The cache, however, keeps the empty graph that an
absent group document stands for, and does not keep why it is empty. A governing document is
therefore not missed if a document before it was judged with its help, and only then. With this in
mind `resolve_eq_ok_iff` says exactly which requests are answered.
-/

namespace LinkedAccess.WebAccess

variable {inquiry : Inquiry} {targets : List Identifier} {governed : Governed}

/-- The documents that are read for a target that a document governs. -/
def Inquiry.needs (inquiry : Inquiry) (document target : Identifier) : List Identifier :=
  document :: inquiry.consultedFor document target

/-- A document is asked for as that of a group by a target that is judged before its own turn. -/
def ConsultedBefore (inquiry : Inquiry) (targets : List Identifier) (document : Identifier) :
    Prop :=
  ∃ target ∈ targets, ∃ earlier, inquiry.located target = .ok earlier ∧
    compare earlier document = .lt ∧ document ∈ inquiry.consultedFor earlier target

theorem Gathered.mem_loads_iff (gathered : Gathered inquiry targets governed)
    {before after : List (Identifier × List Identifier)} {document : Identifier}
    {group : List Identifier} (split : governed.toList = before ++ (document, group) :: after) :
    document ∈ (inquiry.loads before).map (·.1) ↔ ConsultedBefore inquiry targets document := by
  rw [mem_map_loads]
  constructor
  · rintro ⟨⟨earlier, others⟩, entryMem, isLoaded⟩
    rcases (AscendingMap.mem_front_iff split).1 entryMem with ⟨isListed, isEarlier⟩
    rcases gathered.mem_toList.1 isListed with ⟨rfl, _⟩
    rcases isLoaded with rfl | ⟨target, targetMem, isConsulted⟩
    · simp at isEarlier
    · rcases mem_governedBy.1 targetMem with ⟨targetMem, isLocated⟩
      exact ⟨target, targetMem, earlier, isLocated, isEarlier, isConsulted⟩
  · rintro ⟨target, targetMem, earlier, isLocated, isEarlier, isConsulted⟩
    have isGoverned : target ∈ inquiry.governedBy targets earlier :=
      mem_governedBy.2 ⟨targetMem, isLocated⟩
    have isListed := gathered.entry_mem targetMem isLocated
    exact ⟨_, (AscendingMap.mem_front_iff split).2 ⟨isListed, isEarlier⟩,
      Or.inr ⟨target, isGoverned, isConsulted⟩⟩

theorem loading_loads_eq_ok_iff {α : Type} {value : α} {loaded : List Identifier}
    {entries : List (Identifier × List Identifier)} :
    inquiry.answers.loading value loaded (inquiry.loads entries) = .ok value ↔
      ∀ before document group after, entries = before ++ (document, group) :: after →
        (inquiry.answers.IsReadable document ∧ (inquiry.answers.Vanished document →
          document ∈ loaded ++ (inquiry.loads before).map (·.1))) ∧
        ∀ target ∈ group, ∀ consulted ∈ inquiry.consultedFor document target,
          inquiry.answers.IsReadable consulted := by
  simp only [← Answers.settled_fail_eq_ok_iff]
  induction entries generalizing loaded with
  | nil => simp [Inquiry.loads, Answers.loading]
  | cons entry later inductionHypothesis =>
      rcases entry with ⟨document, group⟩
      simp only [loading_loads_cons, bind_eq_ok_iff, Answers.reading_eq_ok_iff, List.mem_flatMap,
        inductionHypothesis]
      constructor
      · rintro ⟨graph, isSettled, _, ⟨_, readable⟩, onLater⟩ before other others after split
        cases before with
        | nil =>
            cases split
            refine ⟨⟨graph, ?_⟩, ?_⟩
            · simpa [Inquiry.loads] using isSettled
            · intro target targetMem consulted isConsulted
              exact readable consulted ⟨target, targetMem, isConsulted⟩
        | cons head before =>
            -- What the first entry loads counts as loaded for all entries after it.
            cases split
            rw [append_map_loads_cons]
            exact onLater before other others after rfl
      · intro onAll
        rcases onAll [] document group later rfl with ⟨⟨graph, isSettled⟩, readable⟩
        refine ⟨graph, ?_, (), ⟨trivial, ?_⟩, ?_⟩
        · simpa [Inquiry.loads] using isSettled
        · rintro consulted ⟨target, targetMem, isConsulted⟩
          exact readable target targetMem consulted isConsulted
        · rintro before other others after rfl
          have onOther := onAll ((document, group) :: before) other others after rfl
          rwa [append_map_loads_cons] at onOther

theorem Gathered.needs {governed : Governed} (gathered : Gathered inquiry targets governed)
    {document needed : Identifier} {group : List Identifier}
    (entryMem : (document, group) ∈ governed.toList)
    (isNeeded : needed = document ∨
      ∃ target ∈ group, needed ∈ inquiry.consultedFor document target) :
    ∃ target ∈ targets, inquiry.located target = .ok document ∧
      needed ∈ inquiry.needs document target := by
  rcases gathered.mem_toList.1 entryMem with ⟨rfl, notEmpty⟩
  rcases isNeeded with rfl | ⟨target, targetMem, isConsulted⟩
  · rcases List.exists_mem_of_ne_nil _ notEmpty with ⟨target, targetMem⟩
    rcases mem_governedBy.1 targetMem with ⟨targetMem, isLocated⟩
    exact ⟨target, targetMem, isLocated, List.mem_cons_self⟩
  · rcases mem_governedBy.1 targetMem with ⟨targetMem, isLocated⟩
    exact ⟨target, targetMem, isLocated, List.mem_cons_of_mem _ isConsulted⟩

theorem mem_map_loads_of_gathered {governed : Governed}
    (gathered : Gathered inquiry targets governed) {needed : Identifier} :
    needed ∈ (inquiry.loads governed.toList).map (·.1) ↔
      ∃ target ∈ targets, ∃ document, inquiry.located target = .ok document ∧
        needed ∈ inquiry.needs document target := by
  rw [mem_map_loads]
  constructor
  · rintro ⟨⟨document, group⟩, entryMem, isNeeded⟩
    rcases gathered.needs entryMem isNeeded with ⟨target, targetMem, isLocated, isNeeded⟩
    exact ⟨target, targetMem, document, isLocated, isNeeded⟩
  · rintro ⟨target, targetMem, document, isLocated, isNeeded⟩
    have isGoverned : target ∈ inquiry.governedBy targets document :=
      mem_governedBy.2 ⟨targetMem, isLocated⟩
    refine ⟨_, gathered.entry_mem targetMem isLocated, ?_⟩
    rcases List.mem_cons.1 isNeeded with isDocument | isConsulted
    · exact Or.inl isDocument
    · exact Or.inr ⟨target, isGoverned, isConsulted⟩

/-- The loads for the first entries succeed if all that their targets need can be read and no
document among them has vanished that was not consulted before. -/
theorem Gathered.loading_front {α : Type} (gathered : Gathered inquiry targets governed)
    {front back : List (Identifier × List Identifier)} (split : governed.toList = front ++ back)
    (value : α)
    (onFront : ∀ entry ∈ front, ∀ target ∈ entry.2,
      (inquiry.answers.Vanished entry.1 → ConsultedBefore inquiry targets entry.1) ∧
        ∀ needed ∈ inquiry.needs entry.1 target, inquiry.answers.IsReadable needed) :
    inquiry.answers.loading value [] (inquiry.loads front) = .ok value := by
  refine loading_loads_eq_ok_iff.2 ?_
  intro before document group after splitFront
  subst splitFront
  rw [List.append_assoc, List.cons_append] at split
  have entryMem : (document, group) ∈ governed.toList := by
    rw [split]
    exact List.mem_append_right _ List.mem_cons_self
  have onGroup := onFront (document, group) (List.mem_append_right _ List.mem_cons_self)
  rcases List.exists_mem_of_ne_nil _ (gathered.mem_toList.1 entryMem).2 with ⟨target, targetMem⟩
  rw [List.nil_append, gathered.mem_loads_iff split]
  refine ⟨⟨(onGroup target targetMem).2 document List.mem_cons_self, (onGroup target targetMem).1⟩,
    fun other otherMem consulted isConsulted => ?_⟩
  exact (onGroup other otherMem).2 consulted (List.mem_cons_of_mem _ isConsulted)

/-- A request is answered exactly when its targets are located, all that they need can be read, and
no governing document has vanished that was not consulted before. -/
theorem resolve_eq_ok_iff :
    (∃ found, inquiry.resolve targets = .ok found) ↔
      ∀ target ∈ targets, ∃ document, inquiry.located target = .ok document ∧
        (inquiry.answers.Vanished document → ConsultedBefore inquiry targets document) ∧
        ∀ needed ∈ inquiry.needs document target, inquiry.answers.IsReadable needed := by
  constructor
  · rintro ⟨found, resolved⟩ target targetMem
    rcases bind_eq_ok_iff.1 resolved with ⟨governed, gathering, loaded⟩
    rcases gathered_of_gather gathering with ⟨gathered, allLocated⟩
    rcases allLocated target targetMem with ⟨document, isLocated⟩
    rcases Answers.of_loading loaded with ⟨rfl, readable⟩
    rcases List.append_of_mem (gathered.entry_mem targetMem isLocated) with ⟨before, after, split⟩
    refine ⟨document, isLocated, ?_, ?_⟩
    · intro vanished
      have isLoaded := (loading_loads_eq_ok_iff.1 loaded before document _ after split).1.2 vanished
      rw [List.nil_append] at isLoaded
      exact (gathered.mem_loads_iff split).1 isLoaded
    · intro needed isNeeded
      rcases List.mem_map.1 ((mem_map_loads_of_gathered gathered).2
        ⟨target, targetMem, document, isLocated, isNeeded⟩) with ⟨load, loadMem, rfl⟩
      exact readable load loadMem
  · intro onEach
    have allLocated : ∀ target ∈ targets, ∃ document, inquiry.located target = .ok document := by
      intro target targetMem
      rcases onEach target targetMem with ⟨document, isLocated, _⟩
      exact ⟨document, isLocated⟩
    rcases gather_of_located ∅ allLocated with ⟨governed, gathering⟩
    have gathered := (gathered_of_gather gathering).1
    refine ⟨_, bind_eq_ok_iff.2 ⟨governed, gathering,
      gathered.loading_front (List.append_nil _).symm _ ?_⟩⟩
    rintro ⟨document, group⟩ entryMem target targetMem
    rcases gathered.mem_toList.1 entryMem with ⟨rfl, _⟩
    rcases mem_governedBy.1 targetMem with ⟨targetMem, isLocated⟩
    rcases onEach target targetMem with ⟨other, isLocatedThere, onTarget⟩
    rw [isLocated, Except.ok.injEq] at isLocatedThere
    rw [isLocatedThere]
    exact onTarget

end LinkedAccess.WebAccess
