import LinkedAccess.Proofs.Triples.Grammar

/-!
# Documents in parts

A document that is cut at an end of line can be read in parts. What is read of a part does not
depend on what was read before, but for the number of its first line: a part adds the statements of
its own graph, and an error is reported as many lines further down as there are lines above. So only
the first line that cannot be read is ever reported, whatever follows it. Where there is none,
neither the order of lines counts nor how often they stand there, and lines that say nothing do not
count at all.
-/

namespace LinkedAccess

namespace Text

theorem splitAt_append (separator : Char) (first second : List Char) :
    splitAt separator (first ++ separator :: second) =
      splitAt separator first ++ splitAt separator second := by
  induction first with
  | nil => simp [splitAt]
  | cons character rest inductionHypothesis =>
      rw [List.cons_append, splitAt, splitAt, inductionHypothesis]
      split
      · rfl
      · cases parts : splitAt separator rest with
        | nil => exact absurd parts (splitAt_ne_nil separator rest)
        | cons part later => rfl

theorem length_splitAt (separator : Char) (text : List Char) :
    (splitAt separator text).length = text.count separator + 1 := by
  induction text with
  | nil => rfl
  | cons character rest inductionHypothesis =>
      rw [splitAt, List.count_cons]
      split
      · rename_i isSeparator
        simp [isSeparator, inductionHypothesis]
      · rename_i notSeparator
        cases parts : splitAt separator rest with
        | nil => exact absurd parts (splitAt_ne_nil separator rest)
        | cons part later =>
            rw [parts] at inductionHypothesis
            simpa [notSeparator] using inductionHypothesis

end Text

/-- The same error where there are further lines above. -/
def SyntaxError.below (above : Nat) (error : SyntaxError) : SyntaxError :=
  { error with line := error.line + above }

namespace Triples

variable {line other : List Char} {lines : List (List Char)} {statement : Statement}

/-- A line that says nothing or can be split into a statement and what may surround it. -/
def IsWellFormed (line : List Char) : Prop :=
  trim line = [] ∨ (∃ text, trim line = '#' :: text) ∨
    ∃ (split : Split) (statement : Statement), split.line = trim line ∧ split.Denotes statement

theorem isWellFormed_iff : IsWellFormed line ↔ ∃ found, readLine line = .ok found :=
  exists_readLine_iff.symm

theorem not_isWellFormed_iff : ¬IsWellFormed line ↔ ∃ cause, readLine line = .error cause := by
  rw [isWellFormed_iff]
  cases readLine line with
  | ok found => simp
  | error cause => simp

theorem readLine_congr (same : trim line = trim other) : readLine line = readLine other := by
  rw [readLine, readLine, same]

theorem isSilent_trim_of_some (isRead : readLine line = .ok (some statement)) :
    isSilent (trim line) = false := by
  rw [← Bool.not_eq_true]
  intro staysSilent
  rw [readLine, if_pos staysSilent] at isRead
  cases isRead

theorem readLines_append (number : Nat) (graph : Graph) (front back : List (List Char)) :
    readLines number graph (front ++ back) =
      readLines number graph front >>= fun result =>
        readLines (number + front.length) result back := by
  induction front generalizing number graph with
  | nil => rfl
  | cons line later inductionHypothesis =>
      have sameNumber : number + (line :: later).length = number + 1 + later.length := by
        rw [List.length_cons]
        omega
      rw [List.cons_append, readLines, readLines, sameNumber]
      cases readLine line with
      | error cause => rfl
      | ok found =>
          cases found with
          | none => exact inductionHypothesis _ _
          | some statement => exact inductionHypothesis _ _

/-- Lines that were read before move the number of a refused line, and their statements stay. -/
theorem readLines_below (above number : Nat) (before graph : Graph) (lines : List (List Char)) :
    readLines (number + above) (before ∪ graph) lines =
      ((readLines number graph lines).mapError (SyntaxError.below above)).map (before ∪ ·) := by
  induction lines generalizing number graph with
  | nil => rfl
  | cons line later inductionHypothesis =>
      have sameNumber : number + above + 1 = number + 1 + above := by omega
      -- The line adds to the graph that the lines above are united with, not to the union.
      have sameGraph (statement : Statement) :
          (before ∪ graph).insert statement = before ∪ graph.insert statement := by
        apply AscendingSet.ext
        intro other
        simp only [AscendingSet.mem_insert, AscendingSet.mem_union]
        exact or_left_comm
      rw [readLines, readLines, sameNumber]
      cases readLine line with
      | error cause => rfl
      | ok found =>
          cases found with
          | none => exact inductionHypothesis _ _
          | some statement =>
              dsimp only
              rw [sameGraph]
              exact inductionHypothesis _ _

/-- The lines up to a refused one are the only ones that matter. -/
theorem readLines_eq_error_iff {number : Nat} {graph : Graph} {error : SyntaxError} :
    readLines number graph lines = .error error ↔
      ∃ front line back cause, lines = front ++ line :: back ∧
        (∀ other ∈ front, IsWellFormed other) ∧ readLine line = .error cause ∧
        error = ⟨number + front.length, cause.message⟩ := by
  constructor
  · intro failed
    induction lines generalizing number graph with
    | nil => cases failed
    | cons line later inductionHypothesis =>
        have onLater {found : Option Statement} {next : Graph} (isRead : readLine line = .ok found)
            (failed : readLines (number + 1) next later = .error error) :
            ∃ front other back cause, line :: later = front ++ other :: back ∧
              (∀ other ∈ front, IsWellFormed other) ∧ readLine other = .error cause ∧
              error = ⟨number + front.length, cause.message⟩ := by
          rcases inductionHypothesis failed with
            ⟨front, other, back, cause, rfl, onFront, isRefused, rfl⟩
          refine ⟨line :: front, other, back, cause, rfl, ?_, isRefused, ?_⟩
          · exact List.forall_mem_cons.2 ⟨isWellFormed_iff.2 ⟨found, isRead⟩, onFront⟩
          · rw [List.length_cons]
            congr 1
            omega
        rw [readLines] at failed
        cases isRead : readLine line with
        | error cause =>
            rw [isRead] at failed
            cases failed
            exact ⟨[], line, later, cause, rfl, by simp, isRead, rfl⟩
        | ok found =>
            rw [isRead] at failed
            cases found with
            | none => exact onLater isRead failed
            | some statement => exact onLater isRead failed
  · rintro ⟨front, line, back, cause, rfl, onFront, isRefused, rfl⟩
    simp only [isWellFormed_iff] at onFront
    have readsFront : ∃ result, readLines number graph front = .ok result :=
      exists_readLines_iff.2 onFront
    rcases readsFront with ⟨result, isRead⟩
    rw [readLines_append, isRead]
    show readLines _ result (line :: back) = _
    rw [readLines, isRefused]

end Triples

namespace Graph

open Triples

variable {first second document : String} {graph : Graph}

/-- The lines of a document, the last of which no line feed follows. -/
def lines (document : String) : List (List Char) := Text.splitAt '\n' document.toList

/-- What the lines of a document say, without white space at their ends. -/
def contents (document : String) : List (List Char) :=
  ((lines document).map trim).filter fun text => !isSilent text

/-- Nothing is added to the last line of a document by what follows it. -/
def EndsLine (document : String) : Prop := document = "" ∨ ∃ front, document = front ++ "\n"

theorem lines_append (front back : String) :
    lines (front ++ "\n" ++ back) = lines front ++ lines back := by
  have split : (front ++ "\n" ++ back).toList = front.toList ++ '\n' :: back.toList := by simp
  rw [lines, split, Text.splitAt_append, lines, lines]

theorem union_empty (graph : Graph) : graph ∪ ∅ = graph := by
  apply AscendingSet.ext
  simp

theorem empty_union (graph : Graph) : ∅ ∪ graph = graph := by
  apply AscendingSet.ext
  simp

theorem parse_append_line (front back : String) :
    Graph.parse (front ++ "\n" ++ back) = Graph.parse front >>= fun graph =>
      ((Graph.parse back).mapError (SyntaxError.below (lines front).length)).map (graph ∪ ·) := by
  have parse_eq (document : String) : Graph.parse document = readLines 1 ∅ (lines document) := rfl
  simp only [parse_eq, lines_append, readLines_append]
  congr 1
  funext graph
  have shifted := readLines_below (lines front).length 1 graph ∅ (lines back)
  rwa [union_empty] at shifted

theorem parse_endLine (front : String) : Graph.parse (front ++ "\n") = Graph.parse front := by
  have onParts := parse_append_line front ""
  rw [String.append_empty] at onParts
  rw [onParts]
  cases Graph.parse front with
  | error error => rfl
  | ok graph => exact congrArg Except.ok (union_empty graph)

/-- A document is read part by part. -/
theorem parse_append (endsLine : EndsLine first) (second : String) :
    Graph.parse (first ++ second) = Graph.parse first >>= fun graph =>
      ((Graph.parse second).mapError (SyntaxError.below (first.toList.count '\n'))).map
        (graph ∪ ·) := by
  rcases endsLine with rfl | ⟨front, rfl⟩
  · rw [String.empty_append]
    show _ = (Except.mapError _ _).map _
    cases Graph.parse second with
    | error error => rfl
    | ok graph => exact congrArg Except.ok (empty_union graph).symm
  · have sameCount : (front ++ "\n").toList.count '\n' = (lines front).length := by
      rw [lines, Text.length_splitAt]
      simp
    rw [sameCount, parse_endLine, parse_append_line]

theorem mem_contents {text : List Char} :
    text ∈ contents document ↔
      ∃ line ∈ lines document, trim line = text ∧ isSilent text = false := by
  simp only [contents, List.mem_filter, List.mem_map, Bool.not_eq_true']
  constructor
  · rintro ⟨⟨line, lineMem, same⟩, isSaid⟩
    exact ⟨line, lineMem, same, isSaid⟩
  · rintro ⟨line, lineMem, same, isSaid⟩
    exact ⟨⟨line, lineMem, same⟩, isSaid⟩

/-- An error is about the first line that is malformed: those above it are not. -/
def ReportsFirst (document : String) (error : SyntaxError) : Prop :=
  ∃ front line back cause, lines document = front ++ line :: back ∧
    (∀ other ∈ front, IsWellFormed other) ∧ ¬IsWellFormed line ∧
      readLine line = .error cause ∧ error = ⟨front.length + 1, cause.message⟩

theorem parse_eq_error_iff {error : SyntaxError} :
    Graph.parse document = .error error ↔ ReportsFirst document error := by
  rw [Graph.parse, readLines_eq_error_iff]
  constructor
  · rintro ⟨front, line, back, cause, split, onFront, isRefused, rfl⟩
    rw [Nat.add_comm]
    exact ⟨front, line, back, cause, split, onFront, not_isWellFormed_iff.2 ⟨cause, isRefused⟩,
      isRefused, rfl⟩
  · rintro ⟨front, line, back, cause, split, onFront, _, isRefused, rfl⟩
    rw [Nat.add_comm]
    exact ⟨front, line, back, cause, split, onFront, isRefused, rfl⟩

/-- Whatever follows the reported line can be replaced. -/
theorem ReportsFirst.of_take_eq {error : SyntaxError} (reports : ReportsFirst first error)
    (same : (lines second).take error.line = (lines first).take error.line) :
    ReportsFirst second error := by
  rcases reports with ⟨front, line, back, cause, split, onFront, isMalformed, isRefused, rfl⟩
  have upToLine : (lines first).take (front.length + 1) = front ++ [line] := by
    rw [split, List.take_length_add_append]
    rfl
  refine ⟨front, line, (lines second).drop (front.length + 1), cause, ?_, onFront, isMalformed,
    isRefused, rfl⟩
  rw [upToLine] at same
  calc lines second
      = (lines second).take (front.length + 1) ++ (lines second).drop (front.length + 1) :=
        (List.take_append_drop _ _).symm
    _ = front ++ line :: (lines second).drop (front.length + 1) := by
        rw [same, List.append_assoc]
        rfl

theorem exists_parse_iff :
    (∃ graph, Graph.parse document = .ok graph) ↔
      ∀ line, trim line ∈ contents document → IsWellFormed line := by
  rw [Graph.parse, exists_readLines_iff]
  constructor
  · intro onLines line textMem
    rcases mem_contents.1 textMem with ⟨other, otherMem, sameText, _⟩
    rw [isWellFormed_iff, ← readLine_congr sameText]
    exact onLines other otherMem
  · intro onContents line lineMem
    -- A line that is not among the contents is silent, and silent lines are never refused.
    cases isSaid : isSilent (trim line) with
    | true => exact ⟨none, readLine_eq_none_iff.2 (isSilent_iff.1 isSaid)⟩
    | false =>
        have textMem := mem_contents.2 ⟨line, lineMem, rfl, isSaid⟩
        exact isWellFormed_iff.1 (onContents line textMem)

theorem mem_of_parse (isRead : Graph.parse document = .ok graph) {statement : Statement} :
    statement ∈ graph ↔
      ∃ line, trim line ∈ contents document ∧ readLine line = .ok (some statement) := by
  rw [mem_of_readLines isRead, or_iff_right (AscendingSet.not_mem_empty statement)]
  constructor
  · rintro ⟨line, lineMem, readsLine⟩
    exact ⟨line, mem_contents.2 ⟨line, lineMem, rfl, isSilent_trim_of_some readsLine⟩, readsLine⟩
  · rintro ⟨line, textMem, readsLine⟩
    rcases mem_contents.1 textMem with ⟨other, otherMem, sameText, _⟩
    exact ⟨other, otherMem, (readLine_congr sameText).trans readsLine⟩

/-- Documents that say the same, in any order, are the same graph. -/
theorem parse_of_contents (isRead : Graph.parse first = .ok graph)
    (same : ∀ text, text ∈ contents second ↔ text ∈ contents first) :
    Graph.parse second = .ok graph := by
  have readsSecond : ∃ other, Graph.parse second = .ok other := by
    rw [exists_parse_iff]
    intro line textMem
    exact exists_parse_iff.1 ⟨graph, isRead⟩ line ((same _).1 textMem)
  rcases readsSecond with ⟨other, isReadToo⟩
  have sameGraph : other = graph := by
    apply AscendingSet.ext
    intro statement
    rw [mem_of_parse isRead, mem_of_parse isReadToo]
    simp only [same]
  rw [isReadToo, sameGraph]

/-- What a document is, according to the parts that it is put together from. -/
structure IsComposed (first second : String) : Prop where
  union : ∀ graph other, Graph.parse first = .ok graph → Graph.parse second = .ok other →
    Graph.parse (first ++ second) = .ok (graph ∪ other)
  failsAbove : ∀ error, Graph.parse first = .error error →
    Graph.parse (first ++ second) = .error error
  failsBelow : ∀ graph error, Graph.parse first = .ok graph →
    Graph.parse second = .error error →
      Graph.parse (first ++ second) =
        .error ⟨error.line + first.toList.count '\n', error.detail⟩

theorem isComposed (endsLine : EndsLine first) (second : String) : IsComposed first second := by
  have onParts := parse_append endsLine second
  constructor
  · intro graph other isRead isReadToo
    rw [onParts, isRead, isReadToo]
    rfl
  · intro error failed
    rw [onParts, failed]
    rfl
  · intro graph error isRead failed
    rw [onParts, isRead, failed]
    rfl

/-- Reading goes along with putting documents together at ends of lines. An error reports the first
malformed line and its number, and would do so whatever comes after it. Without an error, it only
matters which lines say something, wherever and how often they stand. -/
theorem parsing_is_compositional :
    (∀ first second, EndsLine first → IsComposed first second) ∧
    (∀ document error, Graph.parse document = .error error ↔ ReportsFirst document error) ∧
    (∀ first second error, Graph.parse first = .error error →
      (lines second).take error.line = (lines first).take error.line →
        Graph.parse second = .error error) ∧
    ∀ first second graph, Graph.parse first = .ok graph →
      (∀ text, text ∈ contents second ↔ text ∈ contents first) →
        Graph.parse second = .ok graph := by
  refine ⟨?_, ?_, ?_, ?_⟩
  · intro first second endsLine
    exact isComposed endsLine second
  · intro document error
    exact parse_eq_error_iff
  · intro first second error failed same
    exact parse_eq_error_iff.2 ((parse_eq_error_iff.1 failed).of_take_eq same)
  · intro first second graph isRead same
    exact parse_of_contents isRead same

/-- A statement between lines that say nothing, one of which ends with a carriage return. -/
def remarked : String := "# first\r\n\n<#a> <#b> _:c . # said\n"

/-- A statement, a line that breaks off, and something else. -/
def brokenOff (later : String) : String := "<#a> <#b> _:d .\n<#a> <#b> .\n" ++ later

/-- What the remarks say, twice and in another form. -/
def repeated : String := "<#a> <#b> _:c . # said\n\t\n  <#a> <#b> _:c . # said"

theorem remarked_is_composed :
    Graph.parse (remarked ++ brokenOff "<#a") =
        .error ⟨5, "Parsing Error: Error \x7b input: \".\", code: Char \x7d"⟩ ∧
      Graph.parse (brokenOff "<#a> <#b> _:e .") =
        .error ⟨2, "Parsing Error: Error \x7b input: \".\", code: Char \x7d"⟩ ∧
      Graph.parse repeated = .ok (.ofList [⟨.iri "#a", .iri "#b", .blank "c"⟩]) := by
  rcases parsing_is_compositional with ⟨onParts, _, onFront, onContents⟩
  have isRead : Graph.parse remarked = .ok (.ofList [⟨.iri "#a", .iri "#b", .blank "c"⟩]) := by
    decide +kernel
  have failed : Graph.parse (brokenOff "<#a") =
      .error ⟨2, "Parsing Error: Error \x7b input: \".\", code: Char \x7d"⟩ := by
    decide +kernel
  have endsLine : EndsLine remarked := Or.inr ⟨"# first\r\n\n<#a> <#b> _:c . # said", rfl⟩
  refine ⟨(onParts _ _ endsLine).failsBelow _ _ isRead failed, ?_, ?_⟩
  · exact onFront _ _ _ failed (by decide +kernel)
  · apply onContents remarked repeated _ isRead
    have sameContents : contents repeated = contents remarked ++ contents remarked := by
      decide +kernel
    simp [sameContents]

end Graph

end LinkedAccess
