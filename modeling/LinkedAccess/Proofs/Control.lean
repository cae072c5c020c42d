import LinkedAccess.Proofs.Policy.Meaning
import LinkedAccess.Proofs.WebAccess.Meaning

/-!
# Control over access control documents

Both resolvers judge the resource that governs a target, and only then look at what they found from
the target itself. A resource and its document are therefore judged as one, and of what is found the
document shows nothing but who controls the resource. No other mode, however it is given or denied,
is of any use there: requests in which the same groups control a resource, answered by whichever
resolver from whatever documents, have the same answer for its document.
-/

namespace LinkedAccess

/-- The permissions that were found for a request by one of the resolvers. The names of the
documents are given, and all else is left open. -/
inductive Resolved (naming : AuxiliaryNaming) (requested : AccessMap) (found : PermissionMap) :
    Prop where
  | webAccess {σ : Type} {reader : Reader σ} {answers : Answers} {state : σ}
      (steady : reader.Steady answers state) (hierarchy : Hierarchy) (checker : Checker)
      (credentials : Credentials)
      (resolved : (WebAccess.resolver ⟨hierarchy, naming⟩ reader checker credentials requested
        state).1 = .ok found) :
      Resolved naming requested found
  | policy {σ : Type} {reader : Reader σ} {answers : Answers} {state : σ}
      (steady : reader.Steady answers state) (hierarchy : Hierarchy) (credentials : Credentials)
      (resolved : (Policy.resolver ⟨hierarchy, naming⟩ reader credentials requested state).1 =
        .ok found) :
      Resolved naming requested found

variable {naming : AuxiliaryNaming} {requested : AccessMap} {found : PermissionMap}

open WebAccess in
theorem exists_judged_of_webAccess {inquiry : Inquiry} {targets : List Identifier}
    (resolved : inquiry.resolve targets = .ok found) (resource : Identifier) :
    ∃ judged, ∀ target ∈ targets, inquiry.layout.naming.governed target = resource →
      found.get? target = some (onTarget inquiry.layout.naming target judged) := by
  cases isLocated : inquiry.answers.located inquiry.layout.naming
      (inquiry.layout.hierarchy.lineage resource) with
  | error error =>
      refine ⟨{}, fun target targetMem governs => ?_⟩
      subst governs
      rcases get?_of_resolve resolved targetMem with ⟨document, _, isLocatedThere, _⟩
      cases isLocated.symm.trans isLocatedThere
  | ok document =>
      refine ⟨inquiry.permissions (rulesOf (inquiry.answers.content document)
          (if resource = inquiry.layout.naming.governed document then .own else .inherited)
          (inquiry.layout.naming.governed document)),
        fun target targetMem governs => ?_⟩
      subst governs
      rcases get?_of_resolve resolved targetMem with ⟨other, _, isLocatedThere, _, isFound⟩
      cases isLocated.symm.trans isLocatedThere
      exact isFound

theorem exists_judged_of_policy {answers : Answers} {layout : Layout} {credentials : Credentials}
    {targets : List Identifier}
    (resolved : answers.resolvePolicies layout credentials ∅ targets = .ok found)
    (resource : Identifier) :
    ∃ judged, ∀ target ∈ targets, layout.naming.governed target = resource →
      found.get? target = some (WebAccess.onTarget layout.naming target judged) := by
  refine ⟨.uniform (.ofModes (Policy.allowedModes (answers.policies layout.naming .resource
      (layout.hierarchy.lineage resource)) credentials).toList),
    fun target targetMem governs => ?_⟩
  subst governs
  rw [Answers.get?_of_resolvePolicies resolved targetMem, Answers.policyPermission,
    Policy.permissionOn, WebAccess.onTarget]
  split
  · rfl
  · rfl

/-- Targets that are governed by one resource are given what was found for this resource. -/
theorem Resolved.exists_judged (resolved : Resolved naming requested found)
    (resource : Identifier) :
    ∃ judged, ∀ target ∈ requested.keys, naming.governed target = resource →
      found.get? target = some (WebAccess.onTarget naming target judged) := by
  cases resolved with
  | webAccess steady hierarchy checker credentials resolved =>
      rw [WebAccess.run_resolver ⟨_, ⟨hierarchy, naming⟩, checker, credentials⟩ steady] at resolved
      exact exists_judged_of_webAccess resolved resource
  | policy steady hierarchy credentials resolved =>
      rw [Policy.run_resolver steady] at resolved
      exact exists_judged_of_policy resolved resource

/-- A request for a resource together with its document. -/
structure AsksForBoth (naming : AuxiliaryNaming) (requested : AccessMap) (resource : Identifier) :
    Prop where
  isPlain : naming.isAuxiliary resource = false
  own : resource ∈ requested.keys
  document : naming.document resource ∈ requested.keys

theorem Resolved.get?_of_asksForBoth (resolved : Resolved naming requested found)
    {resource : Identifier} (asks : AsksForBoth naming requested resource) :
    ∃ own, found.get? resource = some own ∧
      found.get? (naming.document resource) = some (own.map .onDocument) := by
  rcases resolved.exists_judged resource with ⟨own, onTarget⟩
  have onResource := onTarget resource asks.own (AuxiliaryNaming.governed_of_plain asks.isPlain)
  have onDocument := onTarget _ asks.document (naming.governed_document resource)
  rw [WebAccess.onTarget, asks.isPlain] at onResource
  rw [WebAccess.onTarget, naming.isAuxiliary_document] at onDocument
  exact ⟨own, onResource, onDocument⟩

/-- The same groups hold permissions, and of these the same ones control. -/
def SameControl (first second : PermissionSet) : Prop :=
  ∀ group, (first.get? group).map (·.allows .control) = (second.get? group).map (·.allows .control)

theorem SameControl.map_onDocument {first second : PermissionSet}
    (same : SameControl first second) : first.map .onDocument = second.map .onDocument := by
  apply PermissionSet.eq_of_get?_eq
  intro group
  have throughControl : Permission.onDocument =
      (fun controls => if controls = true then .all else .none) ∘ (·.allows .control) := rfl
  rw [PermissionSet.get?_map, PermissionSet.get?_map, throughControl, ← Option.map_map, same group,
    Option.map_map]

theorem allows_all_or_nothing {permissions : PermissionSet} {group : Group}
    {permission : Permission}
    (isPermitted : (permissions.map .onDocument).get? group = some permission) :
    (∀ mode, permission.allows mode = true) ∨ ∀ mode, permission.allows mode = false := by
  rw [PermissionSet.get?_map, Option.map_eq_some_iff] at isPermitted
  rcases isPermitted with ⟨own, _, rfl⟩
  simp only [Permission.allows_onDocument]
  cases own.allows .control with
  | true => exact Or.inl fun _ => rfl
  | false => exact Or.inr fun _ => rfl

/-- What the permissions on documents have to do with those on the resources they protect. -/
structure ControlUnlocks (naming : AuxiliaryNaming) (requested : AccessMap)
    (found : PermissionMap) : Prop where
  /-- On a document each group is permitted everything or nothing. -/
  allOrNothing : ∀ target ∈ requested.keys, naming.isAuxiliary target = true →
    ∃ permissions, found.get? target = some permissions ∧
      ∀ group permission, permissions.get? group = some permission →
        (∀ mode, permission.allows mode = true) ∨ ∀ mode, permission.allows mode = false
  /-- It is permitted everything if and only if it controls the resource. -/
  unlocks : ∀ resource, AsksForBoth naming requested resource →
    ∃ own onDocument, found.get? resource = some own ∧
      found.get? (naming.document resource) = some onDocument ∧
      ∀ group, ((onDocument.get? group).isSome ↔ (own.get? group).isSome) ∧
        ∀ permission held, onDocument.get? group = some permission → own.get? group = some held →
          ((∀ mode, permission.allows mode = true) ↔ held.allows .control = true)
  /-- Nothing else about the resource shows in its document, whatever another answer is made of. -/
  onlyKey : ∀ {otherRequested : AccessMap} {otherFound : PermissionMap},
    Resolved naming otherRequested otherFound → ∀ {resource : Identifier},
      AsksForBoth naming requested resource → AsksForBoth naming otherRequested resource →
      ∀ own other, found.get? resource = some own → otherFound.get? resource = some other →
        SameControl own other → ∃ onDocument,
          found.get? (naming.document resource) = some onDocument ∧
            otherFound.get? (naming.document resource) = some onDocument

/-- Whichever resolver has answered, an access control document is open to those who control the
resource that it protects, and closed to all others. -/
theorem control_unlocks_documents (resolved : Resolved naming requested found) :
    ControlUnlocks naming requested found where
  allOrNothing := by
    intro target isRequested isAuxiliary
    rcases resolved.exists_judged (naming.governed target) with ⟨judged, onTarget⟩
    have isFound := onTarget target isRequested rfl
    rw [WebAccess.onTarget, isAuxiliary] at isFound
    exact ⟨_, isFound, fun _ _ => allows_all_or_nothing⟩
  unlocks := by
    intro resource asks
    rcases resolved.get?_of_asksForBoth asks with ⟨own, onResource, onDocument⟩
    refine ⟨own, _, onResource, onDocument, fun group => ?_⟩
    rw [PermissionSet.get?_map, Option.isSome_map]
    refine ⟨Iff.rfl, fun permission held isPermitted isHeld => ?_⟩
    rw [isHeld] at isPermitted
    cases isPermitted
    simp only [Permission.allows_onDocument]
    exact ⟨fun controls => controls .control, fun controls _ => controls⟩
  onlyKey := by
    intro otherRequested otherFound otherResolved resource asks otherAsks own other onResource
      onResourceThere same
    rcases resolved.get?_of_asksForBoth asks with ⟨_, isOwn, onDocument⟩
    rcases otherResolved.get?_of_asksForBoth otherAsks with ⟨_, isOther, onDocumentThere⟩
    cases onResource.symm.trans isOwn
    cases onResourceThere.symm.trans isOther
    rw [← same.map_onDocument] at onDocumentThere
    exact ⟨_, onDocument, onDocumentThere⟩

open WebAccess (openLayout openRoot)

/-- A request on a resource and on the document that is attached to it. -/
def aWithDocument : AccessMap := .ofList [(⟨"https://pod/a"⟩, ∅), (⟨"https://pod/a.acl"⟩, ∅)]

/-- To be allowed to write is worth no more on a document than to be allowed nothing. -/
theorem openRoot_unlocks_nothing : ∃ found other,
    (WebAccess.resolver openLayout (Answers.ofGraphs openRoot).reader .standard
      { agent := some "https://me/" } aWithDocument ()).1 = .ok found ∧
    (Policy.resolver openLayout (Answers.ofGraphs ∅).reader {} aWithDocument ()).1 = .ok other ∧
    found.get? ⟨"https://pod/a"⟩ ≠ other.get? ⟨"https://pod/a"⟩ ∧
    ∃ onDocument, found.get? (openLayout.naming.document ⟨"https://pod/a"⟩) = some onDocument ∧
      other.get? (openLayout.naming.document ⟨"https://pod/a"⟩) = some onDocument := by
  have resolved : (WebAccess.resolver openLayout (Answers.ofGraphs openRoot).reader .standard
      { agent := some "https://me/" } aWithDocument ()).1 = .ok (.ofList
        [(⟨"https://pod/a"⟩, .uniform { append := true, write := true }),
        (⟨"https://pod/a.acl"⟩, .uniform .none)]) :=
    toOption_eq_some_iff.1 (by decide +kernel)
  have resolvedToo : (Policy.resolver openLayout (Answers.ofGraphs ∅).reader {} aWithDocument
      ()).1 = .ok (.ofList
        [(⟨"https://pod/a"⟩, .uniform .none), (⟨"https://pod/a.acl"⟩, .uniform .none)]) :=
    toOption_eq_some_iff.1 (by decide +kernel)
  have asks : AsksForBoth openLayout.naming aWithDocument ⟨"https://pod/a"⟩ :=
    ⟨by decide, by decide, by decide +kernel⟩
  have unlocks := control_unlocks_documents
    (.webAccess (Answers.steady_reader (.ofGraphs openRoot) ()) openLayout.hierarchy .standard _
      resolved)
  refine ⟨_, _, resolved, resolvedToo, by decide, ?_⟩
  apply unlocks.onlyKey (.policy (Answers.steady_reader (.ofGraphs ∅) ()) openLayout.hierarchy {}
    resolvedToo) asks asks (.uniform { append := true, write := true }) (.uniform .none) (by decide)
    (by decide)
  intro group
  cases group with
  | everyone => rfl
  | agent => rfl

end LinkedAccess
