import LinkedAccess.Policy.Resolve
import LinkedAccess.Proofs.Lineage
import LinkedAccess.Proofs.Settling

/-!
# How policies are collected

All documents on the way up from a target are read, and a way that leads out of the hierarchy ends
in an error after them. What a document describes is decoded once and remembered for later targets.
A memo that only holds what was read before, decoded as it would be now, is never wrong about a
document (`Decodes`), so each target has the policies of its own way up, whichever targets came
first.
-/

namespace LinkedAccess

namespace Answers

/-- The access control resources that a document describes; one that is absent describes none. -/
def described (answers : Answers) (document : Identifier) : List AccessControlResource :=
  (answers.content document).accessControlResources

/-- Whether the way up from a resource can be walked: all documents on it can be read, and it ends
well. -/
def walk (answers : Answers) (naming : AuxiliaryNaming) : Lineage → Except AccessError Unit
  | .root identifier => answers.reading () [naming.document identifier]
  | .stray identifier reason =>
    answers.reading () [naming.document identifier] >>= fun _ => .error (.hierarchy reason)
  | .child identifier parents =>
    answers.reading () [naming.document identifier] >>= fun _ => answers.walk naming parents

/-- The policies on the way up, of one scope in the first document and for members in the others. -/
def policies (answers : Answers) (naming : AuxiliaryNaming) (scope : PolicyScope)
    (lineage : Lineage) : List Policy :=
  (answers.described (naming.document lineage.resource)).flatMap (·.policies scope) ++
    lineage.ancestors.flatMap fun ancestor =>
      (answers.described (naming.document ancestor)).flatMap (·.policies .member)

/-- What the policies on the way up permit to everyone and to the agent alike. -/
def policyPermission (answers : Answers) (layout : Layout) (credentials : Credentials)
    (target : Identifier) : Permission :=
  Policy.permissionOn layout.naming target
    (answers.policies layout.naming .resource (layout.lineage target)) credentials

/-- The outcome of a request on the targets of a list. -/
def resolvePolicies (answers : Answers) (layout : Layout) (credentials : Credentials)
    (found : PermissionMap) : List Identifier → Except AccessError PermissionMap
  | [] => .ok found
  | target :: later =>
    answers.walk layout.naming (layout.lineage target) >>= fun _ =>
      answers.resolvePolicies layout credentials
        (found.insert target (.uniform (answers.policyPermission layout credentials target))) later

/-- The documents that are read for the targets of a list: those on the way up from each target, as
far as they were not read before and nothing went wrong. -/
def surveyed (answers : Answers) (layout : Layout) (loaded : List Identifier) :
    List Identifier → List Identifier
  | [] => []
  | target :: later =>
    let documents := (layout.lineage target).chain.map layout.naming.document
    answers.made loaded (documents.map (·, .empty)) ++
      continuing (answers.walk layout.naming (layout.lineage target))
        (answers.surveyed layout (loaded ++ documents) later)

variable {answers : Answers} {naming : AuxiliaryNaming}

theorem walk_eq_ok_iff {lineage : Lineage} :
    answers.walk naming lineage = .ok () ↔
      (∀ resource ∈ lineage.chain, answers.IsReadable (naming.document resource)) ∧
        lineage.ending = .ok () := by
  induction lineage with
  | root identifier =>
      rw [walk, reading_eq_ok_iff]
      simp [Lineage.chain, Lineage.resource, Lineage.ancestors, Lineage.ending]
  | stray identifier reason =>
      rw [walk, bind_eq_ok_iff]
      simp [Lineage.ending]
  | child identifier parents inductionHypothesis =>
      rw [walk, bind_eq_ok_iff, Lineage.chain_child, List.forall_mem_cons, Lineage.ending]
      simp only [inductionHypothesis, reading_eq_ok_iff]
      simp [and_assoc]

/-- All documents on the way up are read before it matters where the way ends. -/
theorem walk_eq_bind (lineage : Lineage) :
    answers.walk naming lineage =
      answers.reading () (lineage.chain.map naming.document) >>= fun _ => lineage.ending := by
  induction lineage with
  | root identifier => exact reading_eq_bind
  | stray identifier reason => rfl
  | child identifier parents inductionHypothesis =>
      have readings : answers.reading () ((Lineage.child identifier parents).chain.map
          naming.document) = answers.reading () [naming.document identifier] >>= fun _ =>
            answers.reading () (parents.chain.map naming.document) :=
        reading_append () () [naming.document identifier] _
      rw [walk, readings, inductionHypothesis, bind_assoc]
      rfl

theorem of_resolvePolicies {layout : Layout} {credentials : Credentials}
    {found result : PermissionMap} {targets : List Identifier}
    (resolved : answers.resolvePolicies layout credentials found targets = .ok result) :
    (∀ target ∈ targets, answers.walk layout.naming (layout.lineage target) = .ok ()) ∧
      result = targets.foldl (fun found target => found.insert target
        (.uniform (answers.policyPermission layout credentials target))) found := by
  induction targets generalizing found with
  | nil =>
      cases resolved
      exact ⟨by simp, rfl⟩
  | cons target later inductionHypothesis =>
      rw [resolvePolicies, bind_eq_ok_iff] at resolved
      rcases resolved with ⟨_, walks, resolved⟩
      rcases inductionHypothesis resolved with ⟨onLater, resultEq⟩
      exact ⟨List.forall_mem_cons.2 ⟨walks, onLater⟩, resultEq⟩

theorem get?_of_resolvePolicies {layout : Layout} {credentials : Credentials}
    {found result : PermissionMap} {targets : List Identifier} {target : Identifier}
    (resolved : answers.resolvePolicies layout credentials found targets = .ok result)
    (targetMem : target ∈ targets) :
    result.get? target = some (.uniform (answers.policyPermission layout credentials target)) := by
  rw [(of_resolvePolicies resolved).2, AscendingMap.get?_foldl_insert, if_pos targetMem]

theorem policies_child (scope : PolicyScope) (identifier : Identifier) (parents : Lineage) :
    answers.policies naming scope (.child identifier parents) =
      (answers.described (naming.document identifier)).flatMap (·.policies scope) ++
        answers.policies naming .member parents := rfl

end Answers

namespace Policy

variable {σ : Type} {reader : Reader σ} {answers : Answers} {loaded : List Identifier}
  {decoded : Decoded}

/-- What is remembered of a document is what it describes, and the document was read. -/
def Decodes (answers : Answers) (loaded : List Identifier) (decoded : Decoded) : Prop :=
  ∀ document descriptions, decoded.get? document = some descriptions →
    descriptions = answers.described document ∧ document ∈ loaded

theorem decodes_empty (answers : Answers) (loaded : List Identifier) :
    Decodes answers loaded ∅ := by
  intro document descriptions found
  cases found

/-- What is remembered after a document was described. -/
def decoding (answers : Answers) (decoded : Decoded) (document : Identifier) : Decoded :=
  match decoded.get? document with
  | some _ => decoded
  | none => decoded.insert document (answers.described document)

theorem Decodes.decoding (decodes : Decodes answers loaded decoded) (document : Identifier) :
    Decodes answers (loaded ++ [document]) (decoding answers decoded document) := by
  have before : Decodes answers (loaded ++ [document]) decoded := by
    intro other descriptions isKnown
    rcases decodes other descriptions isKnown with ⟨isDescribed, isLoaded⟩
    exact ⟨isDescribed, List.mem_append_left _ isLoaded⟩
  unfold Policy.decoding
  cases decoded.get? document with
  | some previous => exact before
  | none =>
      exact AscendingMap.forall_insert before
        ⟨rfl, List.mem_append_right _ List.mem_cons_self⟩

open Resolution

theorem consults_describe (decodes : Decodes answers loaded decoded) (document : Identifier) :
    Consults reader answers loaded (describe reader decoded document)
      (answers.described document, decoding answers decoded document) [document] := by
  unfold describe decoding
  cases found : decoded.get? document with
  | some descriptions =>
      rcases decodes document descriptions found with ⟨rfl, isLoaded⟩
      refine (consults_pure _).of_mem fun other otherMem => ?_
      rw [List.mem_singleton.1 otherMem]
      exact isLoaded
  | none =>
      rw [← List.append_nil [document]]
      apply Consults.bind (Reader.consults_load document)
      intro _
      exact consults_pure _

/-- What is remembered after the documents of some resources were described. -/
def decodingAll (answers : Answers) (naming : AuxiliaryNaming) (decoded : Decoded)
    (resources : List Identifier) : Decoded :=
  resources.foldl (fun decoded resource => decoding answers decoded (naming.document resource))
    decoded

theorem Decodes.decodingAll (decodes : Decodes answers loaded decoded) (naming : AuxiliaryNaming)
    (resources : List Identifier) :
    Decodes answers (loaded ++ resources.map naming.document)
      (decodingAll answers naming decoded resources) := by
  induction resources generalizing loaded decoded with
  | nil => simpa [Policy.decodingAll] using decodes
  | cons resource later inductionHypothesis =>
      rw [List.map_cons, List.append_cons]
      exact inductionHypothesis (decodes.decoding (naming.document resource))

theorem settles_applicable (decodes : Decodes answers loaded decoded) (naming : AuxiliaryNaming)
    (scope : PolicyScope) (lineage : Lineage) :
    Settles reader answers loaded (applicable naming reader scope decoded lineage)
      (answers.walk naming lineage >>= fun _ =>
        .ok (answers.policies naming scope lineage,
          decodingAll answers naming decoded lineage.chain))
      (answers.made loaded ((lineage.chain.map naming.document).map (·, .empty)))
      (loaded ++ lineage.chain.map naming.document) := by
  induction lineage generalizing scope decoded loaded with
  | root identifier =>
      have policiesEq : answers.policies naming scope (.root identifier) =
          (answers.described (naming.document identifier)).flatMap (·.policies scope) :=
        List.append_nil _
      rw [applicable, Answers.walk, policiesEq]
      apply Settles.finished
      apply Consults.settles (consults_describe decodes (naming.document identifier))
      exact settles_pure _
  | stray identifier reason =>
      rw [applicable, Answers.walk, bind_assoc]
      apply Settles.finished
      apply Consults.settles (consults_describe decodes (naming.document identifier))
      exact settles_throw _ _
  | child identifier parents inductionHypothesis =>
      have readsEq : answers.made loaded
          (((Lineage.child identifier parents).chain.map naming.document).map (·, .empty)) = _ :=
        made_map_empty_append [naming.document identifier] (parents.chain.map naming.document)
      -- Above the first document the scope is that of members and the memo has one more document.
      rw [readsEq, applicable, Answers.walk, bind_assoc, Answers.policies_child]
      apply Consults.settles (consults_describe decodes (naming.document identifier))
      have onward : Settles reader answers (loaded ++ [naming.document identifier]) _ _ _ _ :=
        inductionHypothesis (decodes.decoding (naming.document identifier)) .member
      rw [Lineage.chain_child, List.map_cons,
        List.append_cons loaded _ (parents.chain.map naming.document)]
      exact Settles.finished (Settles.gated onward (settles_pure _))

theorem settles_resolveTargets {layout : Layout} {credentials : Credentials}
    (decodes : Decodes answers loaded decoded) (found : PermissionMap) (targets : List Identifier) :
    Settles reader answers loaded
      (resolveTargets layout reader credentials decoded found targets)
      (answers.resolvePolicies layout credentials found targets)
      (answers.surveyed layout loaded targets)
      (loaded ++ targets.flatMap fun target =>
        (layout.lineage target).chain.map layout.naming.document) := by
  induction targets generalizing loaded decoded found with
  | nil =>
      rw [List.flatMap_nil, List.append_nil]
      exact settles_pure found
  | cons target later inductionHypothesis =>
      have collects : Settles reader answers loaded _ _ _ _ :=
        settles_applicable decodes layout.naming .resource (layout.lineage target)
      rw [resolveTargets, Answers.resolvePolicies, Answers.surveyed, List.flatMap_cons,
        ← List.append_assoc]
      apply Settles.gated collects
      exact inductionHypothesis (decodes.decodingAll layout.naming (layout.lineage target).chain) _

/-- The outcome of the resolver is a matter of the answers alone. -/
theorem run_resolver {state : σ} (steady : reader.Steady answers state) (layout : Layout)
    (credentials : Credentials) (requested : AccessMap) :
    (resolver layout reader credentials requested state).1 =
      answers.resolvePolicies layout credentials ∅ requested.keys.toList :=
  (settles_resolveTargets (decodes_empty answers []) ∅ requested.keys.toList ∅ state .nil steady).1

end Policy

end LinkedAccess
