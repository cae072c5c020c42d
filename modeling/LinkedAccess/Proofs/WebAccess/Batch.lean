import LinkedAccess.Proofs.WebAccess.Answered
import LinkedAccess.Proofs.WebAccess.Meaning

/-!
# Many targets at once

A request on many targets shares its walks, its documents and the permissions of a scope among
them, and it works in the order of the documents. Where no document that is said to be there is
absent, all this cannot be told from asking for each target alone: the loads of a request are then
readings, whose outcome does not depend on what was cached before, and the readings of a request are
those of its targets.
-/

namespace LinkedAccess.WebAccess

variable {inquiry : Inquiry} {targets : List Identifier}

theorem loading_of_gathered {α : Type} (reliable : inquiry.answers.Reliable) {governed : Governed}
    (gathered : Gathered inquiry targets governed) (value : α) :
    inquiry.answers.loading value [] (inquiry.loads governed.toList) =
      inquiry.answers.reading value ((inquiry.loads governed.toList).map (·.1)) := by
  apply Answers.loading_of_here
  intro load loadMem isFatal
  rcases List.mem_flatMap.1 loadMem with ⟨⟨document, group⟩, entryMem, loadMem⟩
  rcases List.mem_cons.1 loadMem with rfl | loadMem
  · rcases gathered.mem_toList.1 entryMem with ⟨rfl, notEmpty⟩
    rcases List.exists_mem_of_ne_nil _ notEmpty with ⟨target, targetMem⟩
    exact reliable.here (Answers.finds_of_located (mem_governedBy.1 targetMem).2)
  · rcases List.mem_map.1 loadMem with ⟨consulted, _, rfl⟩
    cases isFatal

theorem resolve_of_located (reliable : inquiry.answers.Reliable)
    (allLocated : ∀ target ∈ targets, ∃ document, inquiry.located target = .ok document) :
    ∃ governed, Gathered inquiry targets governed ∧
      inquiry.resolve targets = inquiry.answers.reading (inquiry.findings ∅ governed.toList)
        ((inquiry.loads governed.toList).map (·.1)) := by
  rcases gather_of_located ∅ allLocated with ⟨governed, gathering⟩
  have gathered := (gathered_of_gather gathering).1
  refine ⟨governed, gathered, ?_⟩
  rw [Inquiry.resolve, gathering]
  exact loading_of_gathered reliable gathered _

theorem resolve_eq_ok_iff_of_reliable (reliable : inquiry.answers.Reliable) :
    (∃ found, inquiry.resolve targets = .ok found) ↔
      ∀ target ∈ targets, ∃ document, inquiry.located target = .ok document ∧
        ∀ needed ∈ inquiry.needs document target, inquiry.answers.IsReadable needed := by
  rw [resolve_eq_ok_iff]
  apply forall₂_congr
  intro target _
  apply exists_congr
  intro document
  apply and_congr_right
  intro isLocated
  apply and_iff_right
  rintro ⟨cause, unreadable, notFound⟩
  have notAbsent := reliable.here (Answers.finds_of_located isLocated) cause unreadable
  rw [notFound] at notAbsent
  cases notAbsent

/-- A target alone needs its document and what is consulted for it, in this order. -/
theorem resolve_singleton (reliable : inquiry.answers.Reliable) {document target : Identifier}
    (isLocated : inquiry.located target = .ok document) :
    inquiry.resolve [target] = inquiry.answers.reading
      ((∅ : PermissionMap).insert target (inquiry.grantedBy document target))
      (inquiry.needs document target) := by
  have gathering : inquiry.gather ∅ [target] = .ok ((∅ : Governed).insert document [target]) := by
    rw [Inquiry.gather, isLocated]
    rfl
  have needsEq : (inquiry.loads [(document, [target])]).map (·.1) =
      inquiry.needs document target := by
    rw [loads_cons, List.map_cons, List.map_append, Answers.map_fst_map_empty]
    simp [Inquiry.loads, Inquiry.needs]
  rw [Inquiry.resolve, gathering, ← needsEq]
  exact loading_of_gathered reliable (gathered_of_gather gathering).1 _

theorem map_loads_append (before after : List (Identifier × List Identifier))
    (document : Identifier) (earlier later : List Identifier) (target : Identifier) :
    (inquiry.loads (before ++ (document, earlier ++ target :: later) :: after)).map (·.1) =
      (inquiry.loads before).map (·.1) ++
        (document :: (earlier.flatMap (inquiry.consultedFor document) ++
          (inquiry.consultedFor document target ++
            (later.flatMap (inquiry.consultedFor document) ++
              (inquiry.loads after).map (·.1))))) := by
  simp only [Inquiry.loads, List.flatMap_append, List.flatMap_cons, List.map_append, List.map_cons,
    Answers.map_fst_map_empty, List.append_assoc, List.cons_append]

theorem reading_of_first_error {α β : Type} {value : α} {other : β} {document target : Identifier}
    {before earlier later : List Identifier} {error : AccessError}
    (readable : ∀ needed ∈ before, inquiry.answers.IsReadable needed)
    (readableHere : ∀ needed ∈ earlier, inquiry.answers.IsReadable needed)
    (failed : inquiry.answers.reading value (inquiry.needs document target) = .error error) :
    inquiry.answers.reading other (before ++
      (document :: (earlier ++ (inquiry.consultedFor document target ++ later)))) =
        .error error := by
  rw [Answers.reading_append_of_readable readable]
  rw [Inquiry.needs, Answers.reading] at failed
  rw [Answers.reading]
  cases description : inquiry.answers.description document with
  | error cause =>
      rw [description] at failed
      cases failed
      rfl
  | ok graph =>
      rw [description] at failed
      simp only at failed ⊢
      rw [Answers.reading_append_of_readable readableHere]
      exact Answers.reading_append_of_error failed

/-- The first target that fails, in the order of documents and then of targets, decides on the
error. -/
theorem resolve_of_first_error (reliable : inquiry.answers.Reliable) {requested : AccessMap}
    (allLocated : ∀ target ∈ requested.keys, ∃ document, inquiry.located target = .ok document)
    {document target : Identifier} {error : AccessError} (isRequested : target ∈ requested.keys)
    (isLocated : inquiry.located target = .ok document)
    (failed : inquiry.resolve [target] = .error error)
    (earlier : ∀ other ∈ requested.keys, ∀ otherDocument,
      inquiry.located other = .ok otherDocument →
      (compare otherDocument document = .lt ∨
        otherDocument = document ∧ compare other target = .lt) →
      ∀ needed ∈ inquiry.needs otherDocument other, inquiry.answers.IsReadable needed) :
    inquiry.resolve requested.keys.toList = .error error := by
  rcases resolve_of_located reliable allLocated with ⟨governed, gathered, outcome⟩
  -- The entry of the document splits the readings by documents, and the target splits its entry.
  have isGoverned : target ∈ inquiry.governedBy requested.keys.toList document :=
    mem_governedBy.2 ⟨isRequested, isLocated⟩
  rcases List.append_of_mem (gathered.entry_mem isRequested isLocated) with
    ⟨before, after, entriesEq⟩
  rcases List.append_of_mem isGoverned with ⟨front, back, groupEq⟩
  have documentsAscend := governed.ascending
  rw [entriesEq, List.pairwise_append] at documentsAscend
  have targetsAscend : (inquiry.governedBy requested.keys.toList document).Pairwise
      (compare · · = .lt) := requested.keys.ascending.filter _
  rw [groupEq, List.pairwise_append] at targetsAscend
  rw [resolve_singleton reliable isLocated] at failed
  rw [outcome, entriesEq, groupEq, map_loads_append]
  refine reading_of_first_error ?_ ?_ failed
  · intro needed neededMem
    rcases mem_map_loads.1 neededMem with ⟨⟨otherDocument, group⟩, otherMem, isNeeded⟩
    have isBefore : compare otherDocument document = .lt :=
      documentsAscend.2.2 _ otherMem _ List.mem_cons_self
    have otherListed : (otherDocument, group) ∈ governed.toList := by
      rw [entriesEq]
      exact List.mem_append_left _ otherMem
    rcases gathered.needs otherListed isNeeded with
      ⟨other, isRequestedToo, isLocatedThere, isNeeded⟩
    exact earlier other isRequestedToo otherDocument isLocatedThere (Or.inl isBefore) needed
      isNeeded
  · intro needed neededMem
    rcases List.mem_flatMap.1 neededMem with ⟨other, otherMem, isConsulted⟩
    have otherGoverned : other ∈ inquiry.governedBy requested.keys.toList document := by
      rw [groupEq]
      exact List.mem_append_left _ otherMem
    rcases mem_governedBy.1 otherGoverned with ⟨isRequestedToo, isLocatedThere⟩
    refine earlier other isRequestedToo document isLocatedThere ?_ needed
      (List.mem_cons_of_mem _ isConsulted)
    exact Or.inr ⟨rfl, targetsAscend.2.2 other otherMem target List.mem_cons_self⟩

theorem resolve_of_first_stray {requested : AccessMap} {target : Identifier} {error : AccessError}
    (isRequested : target ∈ requested.keys) (failed : inquiry.located target = .error error)
    (earlier : ∀ other ∈ requested.keys, compare other target = .lt →
      ∃ document, inquiry.located other = .ok document) :
    inquiry.resolve requested.keys.toList = .error error := by
  rcases List.append_of_mem isRequested with ⟨front, back, split⟩
  have targetsAscend := requested.keys.ascending
  rw [split, List.pairwise_append] at targetsAscend
  have frontLocated : ∀ other ∈ front, ∃ document, inquiry.located other = .ok document := by
    intro other otherMem
    apply earlier other
    · rw [AscendingSet.mem_iff_mem_toList, split]
      exact List.mem_append_left _ otherMem
    · exact targetsAscend.2.2 other otherMem target List.mem_cons_self
  rw [Inquiry.resolve, split, gather_of_error ∅ frontLocated failed]
  rfl

/-- How the answer to a request relates to those to its targets alone, of which `governing` tells
the document that governs them. -/
structure AgreesWithSingles (requested : AccessMap) (batch : Except AccessError PermissionMap)
    (alone : Identifier → Modes → Except AccessError PermissionMap)
    (governing : Identifier → Except AccessError Identifier) : Prop where
  /-- The request is answered exactly when each target is. -/
  succeeds : (∃ found, batch = .ok found) ↔
    ∀ target ∈ requested.keys, ∀ modes, ∃ found, alone target modes = .ok found
  /-- Each target is then given what it is given alone. -/
  same : ∀ found, batch = .ok found → ∀ target ∈ requested.keys, ∀ modes single,
    alone target modes = .ok single →
      ∃ permissions, found.get? target = some permissions ∧ single.get? target = some permissions
  /-- The first target that is not located decides on the error. -/
  firstStray : ∀ target ∈ requested.keys, ∀ error, governing target = .error error →
    (∀ other ∈ requested.keys, compare other target = .lt →
      ∃ document, governing other = .ok document) →
    batch = .error error ∧ ∀ modes, alone target modes = .error error
  /-- If all are located, the first target that fails does, in the order of documents and then of
  targets. -/
  firstFailing : (∀ target ∈ requested.keys, ∃ document, governing target = .ok document) →
    ∀ target ∈ requested.keys, ∀ document modes error, governing target = .ok document →
      alone target modes = .error error →
      (∀ other ∈ requested.keys, ∀ otherDocument, governing other = .ok otherDocument →
        (compare otherDocument document = .lt ∨
          otherDocument = document ∧ compare other target = .lt) →
        ∀ modes, ∃ found, alone other modes = .ok found) →
      batch = .error error

theorem agrees_with_singles (reliable : inquiry.answers.Reliable) (requested : AccessMap) :
    AgreesWithSingles requested (inquiry.resolve requested.keys.toList)
      (fun target _ => inquiry.resolve [target]) inquiry.located where
  succeeds := by
    simp only [resolve_eq_ok_iff_of_reliable reliable, List.forall_mem_singleton, forall_const]
    rfl
  same := by
    intro found resolved target isRequested _ single resolvedAlone
    rcases get?_of_resolve resolved isRequested with ⟨document, _, isLocated, _, isFound⟩
    rcases get?_of_resolve resolvedAlone List.mem_cons_self with
      ⟨other, _, isLocatedThere, _, isFoundAlone⟩
    rw [isLocated, Except.ok.injEq] at isLocatedThere
    subst isLocatedThere
    exact ⟨_, isFound, isFoundAlone⟩
  firstStray := by
    intro target isRequested error failed earlier
    refine ⟨resolve_of_first_stray isRequested failed earlier, fun _ => ?_⟩
    rw [Inquiry.resolve, Inquiry.gather, failed]
    rfl
  firstFailing := by
    intro allLocated target isRequested document _ error isLocated failed earlier
    refine resolve_of_first_error reliable allLocated isRequested isLocated failed ?_
    intro other isRequestedToo otherDocument isLocatedThere isBefore needed isNeeded
    have succeeds := earlier other isRequestedToo otherDocument isLocatedThere isBefore ∅
    rw [resolve_eq_ok_iff_of_reliable reliable] at succeeds
    rcases succeeds other List.mem_cons_self with ⟨_, isLocatedAlone, readable⟩
    rw [isLocatedThere, Except.ok.injEq] at isLocatedAlone
    subst isLocatedAlone
    exact readable needed isNeeded

/-- With a reader that is steady and reliable, as any store is behind whatever observes it or makes
accesses fail, a request on many targets is answered as its targets are, one by one. The reader may
be in another state by then, as long as it still gives the same answers. -/
theorem resolver_agrees_with_singles :
    (∀ {σ : Type} {reader : Reader σ} {state : σ}, StoreBacked reader state →
      ∃ answers, reader.Steady answers state ∧ answers.Reliable) ∧
    ∀ {σ : Type} {reader : Reader σ} {answers : Answers} {state other : σ},
      reader.Steady answers state → reader.Steady answers other → answers.Reliable →
      ∀ (layout : Layout) (checker : Checker) (credentials : Credentials) (requested : AccessMap),
        AgreesWithSingles requested
          (resolver layout reader checker credentials requested state).1
          (fun target modes => (resolver layout reader checker credentials
            (AscendingMap.insert ∅ target modes) other).1)
          (fun target =>
            (locate layout.naming reader ∅ (layout.lineage target) other).1.map (·.1)) := by
  refine ⟨StoreBacked.steady, ?_⟩
  intro σ reader answers state other steady steadyThere reliable layout checker credentials
    requested
  let inquiry : Inquiry := ⟨answers, layout, checker, credentials⟩
  have aloneEq : (fun target modes => (resolver layout reader checker credentials
      (AscendingMap.insert ∅ target modes) other).1) =
        fun target _ => inquiry.resolve [target] := by
    funext target modes
    exact run_resolver inquiry steadyThere _
  have governingEq : (fun target =>
      (locate layout.naming reader ∅ (layout.lineage target) other).1.map (·.1)) =
        inquiry.located := by
    funext target
    exact run_locate inquiry steadyThere target
  rw [run_resolver inquiry steady requested, aloneEq, governingEq]
  exact agrees_with_singles reliable requested

theorem siblings_agree_with_singles : ∃ found single permissions,
    (resolver openLayout (Answers.ofGraphs openRoot).reader .standard {}
      (.ofList [(⟨"https://pod/b"⟩, ∅), (⟨"https://pod/a"⟩, ∅)]) ()).1 = .ok found ∧
    (resolver openLayout (Answers.ofGraphs openRoot).reader .standard {}
      (AscendingMap.insert ∅ ⟨"https://pod/b"⟩ ∅) ()).1 = .ok single ∧
    found.get? ⟨"https://pod/b"⟩ = some permissions ∧
    single.get? ⟨"https://pod/b"⟩ = some permissions := by
  let requested : AccessMap := .ofList [(⟨"https://pod/b"⟩, ∅), (⟨"https://pod/a"⟩, ∅)]
  have steady := Answers.steady_reader (Answers.ofGraphs openRoot) ()
  have agrees := resolver_agrees_with_singles.2 steady steady (Answers.reliable_ofGraphs openRoot)
    openLayout .standard {} requested
  have isRequested : ⟨"https://pod/b"⟩ ∈ requested.keys := by decide
  have resolved : ∃ found, (resolver openLayout (Answers.ofGraphs openRoot).reader .standard {}
      requested ()).1 = .ok found := by
    refine ⟨.ofList [
      (⟨"https://pod/a"⟩, { everyone := some { append := true, write := true } }),
      (⟨"https://pod/b"⟩, { everyone := some { append := true, write := true } })], ?_⟩
    exact toOption_eq_some_iff.1 (by decide +kernel)
  rcases resolved with ⟨found, resolved⟩
  rcases agrees.succeeds.1 ⟨found, resolved⟩ _ isRequested ∅ with ⟨single, resolvedAlone⟩
  rcases agrees.same found resolved _ isRequested ∅ single resolvedAlone with
    ⟨permissions, isFound, isFoundAlone⟩
  exact ⟨found, single, permissions, resolved, resolvedAlone, isFound, isFoundAlone⟩

end LinkedAccess.WebAccess
