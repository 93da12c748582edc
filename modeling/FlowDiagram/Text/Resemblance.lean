import FlowDiagram.Text.Basic

/-!
# Resemblance

How much two words resemble one another: the longest common part is found, then the longest common
parts before and after it, and so on; the resemblance is twice the number of characters found in
this way, by the number of all characters. Misspelled words are answered with the words that
resemble them.

## Main definitions

* `Resemblance.matched`: the number of characters that two words have in common.
* `Resemblance.closest`: the words that resemble a word.
-/

namespace FlowDiagram.Text.Resemblance

/-- The length of the common beginning of two texts. -/
def commonStart : Text → Text → Nat
  | a :: as, b :: bs => if a = b then commonStart as bs + 1 else 0
  | _, _ => 0

/-- A common part of two texts: where it starts in each, and its length. -/
structure Part where
  left : Nat
  right : Nat
  length : Nat
  deriving DecidableEq, Repr

/-- The common parts that start at given positions of two texts. -/
def parts (a b : Text) : List Part :=
  (List.range a.length).flatMap fun i =>
    (List.range b.length).map fun j => ⟨i, j, commonStart (a.drop i) (b.drop j)⟩

/-- The longest common part of two texts, the leftmost one of equal length. -/
def longest (a b : Text) : Part :=
  (parts a b).foldl (fun best part => if best.length < part.length then part else best) ⟨0, 0, 0⟩

/-- The number of characters that two texts have in common, in order. -/
def matched (a b : Text) : Nat :=
  let part := longest a b
  if _h : 0 < part.length ∧ part.left + part.length ≤ a.length then
    matched (a.take part.left) (b.take part.right) + part.length +
      matched (a.drop (part.left + part.length)) (b.drop (part.right + part.length))
  else 0
termination_by a.length
decreasing_by
  all_goals
    have hpart : 0 < (longest a b).length ∧
      (longest a b).left + (longest a b).length ≤ a.length := _h
    simp only [List.length_take, List.length_drop]
    omega

/-- A word and how much it resembles another one, as a quotient. -/
structure Candidate where
  word : Text
  common : Nat
  total : Nat
  deriving DecidableEq, Repr

namespace Candidate

/-- A word compared with another one. -/
def ofWord (word other : Text) : Candidate :=
  { word
    common := 2 * matched word other
    total := word.length + other.length }

/-- Whether a word resembles the other one enough to be meant: by three fifths. -/
def isClose (candidate : Candidate) : Bool :=
  decide (3 * candidate.total ≤ 5 * candidate.common)

/-- Whether a candidate is at least as close as another one. -/
def atLeast (a b : Candidate) : Bool :=
  let left := a.common * b.total
  let right := b.common * a.total
  decide (right < left) || (left = right && decide (b.word ≤ a.word))

end Candidate

/-- Whether the lengths of two words let them resemble one another: they have no more characters in
common than the shorter one has. -/
def lengthsFit (a b : Text) : Bool :=
  decide (3 * (a.length + b.length) ≤ 10 * min a.length b.length)

/-- The number of words that are offered. -/
def offered : Nat := 3

/-- The words that resemble a word, the closest ones, sorted. -/
def closest (word : Text) (words : List Text) : List Text :=
  let comparable := words.filter (lengthsFit word)
  let close := (comparable.map fun w => Candidate.ofWord w word).filter Candidate.isClose
  let best := (close.mergeSort Candidate.atLeast).take offered
  (best.map Candidate.word).mergeSort fun a b => decide (a ≤ b)

end FlowDiagram.Text.Resemblance
