/-!
# Parts of a text

A text is split at every occurrence of a separator, so that there is always one part more than there
are separators. A row of digits can be read as a number, in a base of at most sixteen.
-/

namespace LinkedAccess.Text

/-- The parts of a text between the occurrences of a separator. -/
def splitAt (separator : Char) : List Char → List (List Char)
  | [] => [[]]
  | character :: rest =>
    if character = separator then [] :: splitAt separator rest
    else
      match splitAt separator rest with
      | [] => [[character]]
      | part :: later => (character :: part) :: later

theorem splitAt_ne_nil (separator : Char) (text : List Char) : splitAt separator text ≠ [] := by
  cases text with
  | nil => simp [splitAt]
  | cons character rest =>
    simp only [splitAt]
    split
    · simp
    · split <;> simp

/-- Up to the first separator there is one part. -/
theorem splitAt_append_cons {separator : Char} {part : List Char} (notIn : separator ∉ part)
    (rest : List Char) :
    splitAt separator (part ++ separator :: rest) = part :: splitAt separator rest := by
  induction part with
  | nil => simp [splitAt]
  | cons character later inductionHypothesis =>
    simp only [List.mem_cons, not_or] at notIn
    rw [List.cons_append, splitAt, if_neg (Ne.symm notIn.1), inductionHypothesis notIn.2]

/-- The value of a digit of any base up to sixteen, in either case. -/
def digitValue? (character : Char) : Option Nat :=
  if character.isDigit then some (character.toNat - '0'.toNat)
  else if 'a' ≤ character && character ≤ 'f' then some (character.toNat - 'a'.toNat + 10)
  else if 'A' ≤ character && character ≤ 'F' then some (character.toNat - 'A'.toNat + 10)
  else none

/-- The value of a digit of a given base. -/
def digitOf? (base : Nat) (character : Char) : Option Nat :=
  (digitValue? character).filter fun value => decide (value < base)

/-- The value of a row of digits, the highest first; none if one of them is no digit of the base. -/
def numeral? (base : Nat) (digits : List Char) : Option Nat :=
  digits.foldlM (fun value digit => (digitOf? base digit).map fun unit => value * base + unit) 0

end LinkedAccess.Text
