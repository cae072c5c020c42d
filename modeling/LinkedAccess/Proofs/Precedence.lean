import LinkedAccess.Ascending.Set
import LinkedAccess.Statement
import Mathlib.Data.List.Dedup
import Mathlib.Data.List.Sort

/-!
# What comes first

Terms are compared by ranks and contents, which is how a comparison is computed. What it comes to is
said here by rules, one for each way in which a text, a term or a statement may come before another
one. The rules give a strict total order, so a list that has certain items in this order, each of
them once, is determined by which items it has.
-/

namespace LinkedAccess

open Std

/-- A text comes before the texts that it begins, and where two texts differ first the smaller code
point decides. -/
def Text.Precedes (first second : String) : Prop :=
  List.Lex (fun character other => character.toNat < other.toNat) first.toList second.toList

/-- Literals are in the order of their values, then of their languages and then of their datatypes,
where an absent one comes before every present one. -/
inductive Literal.Precedes (first second : Literal) : Prop where
  | value (less : Text.Precedes first.value second.value)
  | language (sameValue : first.value = second.value)
      (less : Option.lt Text.Precedes first.language second.language)
  | datatype (sameValue : first.value = second.value)
      (sameLanguage : first.language = second.language)
      (less : Option.lt Text.Precedes first.datatype second.datatype)

/-- Every IRI comes before every blank node, and every blank node before every literal. -/
inductive Term.Precedes : Term → Term → Prop where
  | iri {name other : String} (less : Text.Precedes name other) : Precedes (.iri name) (.iri other)
  | iriBlank (name label : String) : Precedes (.iri name) (.blank label)
  | iriLiteral (name : String) (content : Literal) : Precedes (.iri name) (.literal content)
  | blank {label other : String} (less : Text.Precedes label other) :
      Precedes (.blank label) (.blank other)
  | blankLiteral (label : String) (content : Literal) : Precedes (.blank label) (.literal content)
  | literal {content other : Literal} (less : content.Precedes other) :
      Precedes (.literal content) (.literal other)

/-- Statements are in the order of their subjects, then of their predicates and then of their
objects. -/
inductive Statement.Precedes (first second : Statement) : Prop where
  | subject (less : first.subject.Precedes second.subject)
  | predicate (sameSubject : first.subject = second.subject)
      (less : first.predicate.Precedes second.predicate)
  | object (sameSubject : first.subject = second.subject)
      (samePredicate : first.predicate = second.predicate)
      (less : first.object.Precedes second.object)

section Comparisons

variable {α β : Type}

theorem compareLex_eq_lt_iff {first second : α → α → Ordering} {item other : α} :
    compareLex first second item other = .lt ↔
      first item other = .lt ∨ first item other = .eq ∧ second item other = .lt :=
  Ordering.then_eq_lt

theorem compare_option_eq_lt_iff [Ord α] {precedes : α → α → Prop}
    (onValues : ∀ value other, compare value other = .lt ↔ precedes value other)
    {first second : Option α} :
    compare first second = .lt ↔ Option.lt precedes first second := by
  cases first with
  | none => cases second <;> simp [compare, Option.lt]
  | some value =>
      cases second with
      | none => simp [compare, Option.lt]
      | some other => exact onValues value other

theorem Text.compare_eq_lt_iff {first second : String} :
    compare first second = .lt ↔ Text.Precedes first second :=
  compareOfLessAndEq_eq_lt

theorem Literal.compare_eq_lt_iff {first second : Literal} :
    compare first second = .lt ↔ first.Precedes second := by
  change order first second = .lt ↔ _
  simp only [order, compareLex_eq_lt_iff, compareOn, LawfulEqOrd.compare_eq_iff_eq,
    Text.compare_eq_lt_iff, compare_option_eq_lt_iff fun _ _ => Text.compare_eq_lt_iff]
  constructor
  · rintro (less | ⟨sameValue, less | ⟨sameLanguage, less⟩⟩)
    · exact .value less
    · exact .language sameValue less
    · exact .datatype sameValue sameLanguage less
  · intro precedes
    cases precedes with
    | value less => exact Or.inl less
    | language sameValue less => exact Or.inr ⟨sameValue, Or.inl less⟩
    | datatype sameValue sameLanguage less =>
        exact Or.inr ⟨sameValue, Or.inr ⟨sameLanguage, less⟩⟩

theorem Literal.plain_precedes_iff {value other : String} :
    (plain value).Precedes (plain other) ↔ Text.Precedes value other := by
  constructor
  · intro precedes
    cases precedes with
    | value less => exact less
    | language _ less => cases less
    | datatype _ _ less => cases less
  · exact fun less => .value less

theorem Term.compare_eq_lt_iff {first second : Term} :
    compare first second = .lt ↔ first.Precedes second := by
  change order first second = .lt ↔ _
  simp only [order, compareLex_eq_lt_iff, compareOn, LawfulEqOrd.compare_eq_iff_eq,
    Nat.compare_eq_lt, Literal.compare_eq_lt_iff]
  constructor
  · intro less
    cases first <;> cases second <;> simp [rank, content, Literal.plain_precedes_iff] at less
    case iri.iri => exact .iri less
    case iri.blank name label => exact .iriBlank name label
    case iri.literal name content => exact .iriLiteral name content
    case blank.blank => exact .blank less
    case blank.literal label content => exact .blankLiteral label content
    case literal.literal => exact .literal less
  · intro precedes
    cases precedes with
    | iri less => exact Or.inr ⟨rfl, Literal.plain_precedes_iff.2 less⟩
    | iriBlank name label => exact Or.inl Nat.zero_lt_one
    | iriLiteral name content => exact Or.inl Nat.zero_lt_two
    | blank less => exact Or.inr ⟨rfl, Literal.plain_precedes_iff.2 less⟩
    | blankLiteral label content => exact Or.inl Nat.one_lt_two
    | literal less => exact Or.inr ⟨rfl, less⟩

theorem Statement.compare_eq_lt_iff {first second : Statement} :
    compare first second = .lt ↔ first.Precedes second := by
  change order first second = .lt ↔ _
  simp only [order, compareLex_eq_lt_iff, compareOn, LawfulEqOrd.compare_eq_iff_eq,
    Term.compare_eq_lt_iff]
  constructor
  · rintro (less | ⟨sameSubject, less | ⟨samePredicate, less⟩⟩)
    · exact .subject less
    · exact .predicate sameSubject less
    · exact .object sameSubject samePredicate less
  · intro precedes
    cases precedes with
    | subject less => exact Or.inl less
    | predicate sameSubject less => exact Or.inr ⟨sameSubject, Or.inl less⟩
    | object sameSubject samePredicate less =>
        exact Or.inr ⟨sameSubject, Or.inr ⟨samePredicate, less⟩⟩

end Comparisons

section Enumerations

variable {α : Type} {precedes : α → α → Prop} {items others : List α} {isItem : α → Prop}

/-- A list has just the items with a property, in order and each of them once. -/
structure Enumerates (precedes : α → α → Prop) (items : List α) (isItem : α → Prop) : Prop where
  inOrder : items.Pairwise precedes
  mem_iff : ∀ item, item ∈ items ↔ isItem item

/-- What a comparison puts first is in a strict total order. -/
theorem isStrictTotalOrder_of_compare [Ord α] [TransOrd α] [LawfulEqOrd α]
    (compare_iff : ∀ item other, compare item other = .lt ↔ precedes item other) :
    IsStrictTotalOrder α precedes where
  irrefl item := by simp [← compare_iff]
  trans item middle other := by
    simp only [← compare_iff]
    exact TransCmp.lt_trans
  trichotomous item other notBefore notAfter := by
    rw [← compare_iff] at notBefore notAfter
    cases order : compare item other with
    | lt => exact absurd order notBefore
    | eq => exact LawfulEqOrd.eq_of_compare order
    | gt => exact absurd (OrientedCmp.lt_of_gt order) notAfter

instance : IsStrictTotalOrder Term Term.Precedes :=
  isStrictTotalOrder_of_compare fun _ _ => Term.compare_eq_lt_iff

instance : IsStrictTotalOrder Statement Statement.Precedes :=
  isStrictTotalOrder_of_compare fun _ _ => Statement.compare_eq_lt_iff

theorem Enumerates.unique [IsStrictTotalOrder α precedes] (first : Enumerates precedes items isItem)
    (second : Enumerates precedes others isItem) : items = others :=
  first.inOrder.eq_of_mem_iff second.inOrder fun item =>
    (first.mem_iff item).trans (second.mem_iff item).symm

theorem Enumerates.length_eq [IsStrictTotalOrder α precedes] [DecidableEq α]
    (enumerates : Enumerates precedes items isItem) (same : ∀ item, isItem item ↔ item ∈ others) :
    items.length = others.dedup.length := by
  apply List.Perm.length_eq
  rw [List.perm_ext_iff_of_nodup enumerates.inOrder.nodup (List.nodup_dedup others)]
  intro item
  rw [enumerates.mem_iff, same, List.mem_dedup]

theorem Enumerates.congr {isOther : α → Prop} (enumerates : Enumerates precedes items isItem)
    (same : ∀ item, isItem item ↔ isOther item) : Enumerates precedes items isOther :=
  ⟨enumerates.inOrder, fun item => (enumerates.mem_iff item).trans (same item)⟩

/-- The first of the items comes before all others. -/
theorem Enumerates.head?_eq_some_iff [IsStrictTotalOrder α precedes]
    (enumerates : Enumerates precedes items isItem) {item : α} :
    items.head? = some item ↔
      isItem item ∧ ∀ other, isItem other → item = other ∨ precedes item other := by
  cases items with
  | nil =>
      have isEmpty : ¬isItem item := by simp [← enumerates.mem_iff]
      simp [isEmpty]
  | cons head tail =>
      obtain ⟨below, _⟩ := List.pairwise_cons.1 enumerates.inOrder
      rw [List.head?_cons, Option.some.injEq]
      constructor
      · rintro rfl
        refine ⟨(enumerates.mem_iff head).1 List.mem_cons_self, fun other isOther => ?_⟩
        rcases List.mem_cons.1 ((enumerates.mem_iff other).2 isOther) with rfl | otherMem
        · exact Or.inl rfl
        · exact Or.inr (below other otherMem)
      · rintro ⟨isItem, least⟩
        rcases List.mem_cons.1 ((enumerates.mem_iff item).2 isItem) with rfl | itemMem
        · rfl
        rcases least head ((enumerates.mem_iff head).1 List.mem_cons_self) with rfl | less
        · rfl
        · exact absurd less (asymm_of precedes (below item itemMem))

theorem AscendingSet.enumerates [Ord α]
    (compare_iff : ∀ item other, compare item other = .lt ↔ precedes item other)
    (set : AscendingSet α) : Enumerates precedes set.toList (· ∈ set) :=
  ⟨set.ascending.imp (compare_iff _ _).1, fun _ => Iff.rfl⟩

end Enumerations

end LinkedAccess
