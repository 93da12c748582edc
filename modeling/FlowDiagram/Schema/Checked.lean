import FlowDiagram.Text.Basic

/-!
# Checked values

Reading a structured value collects every flaw of its parts instead of stopping at the first.
A flaw knows its place: the keys and positions that lead to it.

## Main definitions

* `Problem`: what can be wrong with a value, with its wording.
* `Flaw`: a problem at a place.
* `Checked`: a value, or the flaws found while reading it.
* `Checked.report`: the one-line account of flaws, their number and the first of them.
-/

namespace FlowDiagram.Schema

/-- What is wrong with a value. -/
inductive Problem
  | missing
  | notText
  | brokenText
  | emptyText
  | notList
  | notRecord (kind : String)
  | notBoolean
  | unclearBoolean
  | notInteger
  | unclearInteger
  | oversizedInteger
  | fractionalInteger
  | infiniteInteger
  | belowMinimum (minimum : Nat)
  | singleAndFanOut
  | noTarget
  deriving DecidableEq, Repr

/-- The wording of a problem. -/
def Problem.message : Problem → String
  | .missing => "Field required"
  | .notText => "Input should be a valid string"
  | .brokenText =>
    "Input should be a valid string, unable to parse raw data as a unicode string"
  | .emptyText => "String should have at least 1 character"
  | .notList => "Input should be a valid list"
  | .notRecord kind => "Input should be a valid dictionary or instance of " ++ kind
  | .notBoolean => "Input should be a valid boolean"
  | .unclearBoolean => "Input should be a valid boolean, unable to interpret input"
  | .notInteger => "Input should be a valid integer"
  | .unclearInteger => "Input should be a valid integer, unable to parse string as an integer"
  | .oversizedInteger => "Unable to parse input string as an integer, exceeded maximum size"
  | .fractionalInteger => "Input should be a valid integer, got a number with a fractional part"
  | .infiniteInteger => "Input should be a finite number"
  | .belowMinimum minimum => s!"Input should be greater than or equal to {minimum}"
  | .singleAndFanOut => "Value error, transition cannot be both single and fan-out"
  | .noTarget => "Value error, transition needs a target activity or fan-out targets"

/-- A step into a value: to the member of a key or to the item at a position. -/
inductive Step
  | key (name : Text)
  | item (position : Nat)
  deriving DecidableEq, Repr

/-- How a step is written. -/
def Step.text : Step → Text
  | .key name => name
  | .item position => .ofNat position

/-- A problem and the steps that lead to it. -/
structure Flaw where
  place : List Step
  problem : Problem
  deriving DecidableEq, Repr

/-- The same flaw, seen from one step further out. -/
def Flaw.under (step : Step) (flaw : Flaw) : Flaw :=
  { flaw with place := step :: flaw.place }

/-- A value that was read, or the flaws that prevent it, in the order they were met. -/
inductive Checked (α : Type)
  | valid (value : α)
  | flawed (first : Flaw) (others : List Flaw)

namespace Checked

variable {α β γ : Type}

/-- Fails with one problem at the current place. -/
def fail (problem : Problem) : Checked α :=
  .flawed ⟨[], problem⟩ []

/-- Applies a function to the value. -/
def map (f : α → β) : Checked α → Checked β
  | .valid a => .valid (f a)
  | .flawed first others => .flawed first others

/-- Checks a value further once it has been read. -/
def andThen (checked : Checked α) (f : α → Checked β) : Checked β :=
  match checked with
  | .valid a => f a
  | .flawed first others => .flawed first others

/-- Reads two parts and collects the flaws of both. -/
def both : Checked α → Checked β → Checked (α × β)
  | .valid a, .valid b => .valid (a, b)
  | .valid _, .flawed first others => .flawed first others
  | .flawed first others, .valid _ => .flawed first others
  | .flawed first others, .flawed first' others' =>
    .flawed first (others ++ first' :: others')

/-- The flaws of a part, seen from one step further out. -/
def under (step : Step) : Checked α → Checked α
  | .valid a => .valid a
  | .flawed first others => .flawed (first.under step) (others.map (Flaw.under step))

/-- Reads the items of a list, each at its position, and collects the flaws of all. -/
def items (read : α → Checked β) (position : Nat) : List α → Checked (List β)
  | [] => .valid []
  | a :: as =>
    (both ((read a).under (.item position)) (items read (position + 1) as)).map
      fun (b, bs) => b :: bs

/-- The flaws found; none if the value could be read. -/
def flaws : Checked α → List Flaw
  | .valid _ => []
  | .flawed first others => first :: others

@[simp] theorem flaws_both (a : Checked α) (b : Checked β) :
    (both a b).flaws = a.flaws ++ b.flaws := by
  cases a <;> cases b <;> simp [both, flaws]

@[simp] theorem flaws_map (f : α → β) (a : Checked α) : (a.map f).flaws = a.flaws := by
  cases a <;> rfl

@[simp] theorem flaws_under (step : Step) (a : Checked α) :
    (a.under step).flaws = a.flaws.map (Flaw.under step) := by
  cases a <;> rfl

end Checked

/-- The account of flaws: how many there are, and the first with its place. -/
def report (first : Flaw) (others : List Flaw) : Text :=
  s!"{others.length + 1} invalid entries, first at " ++
    Text.joined "." (first.place.map Step.text) ++ ": " ++ first.problem.message

/-- A value, or the account of its flaws. -/
def Checked.result {α : Type} : Checked α → Except Text α
  | .valid a => .ok a
  | .flawed first others => .error (report first others)

end FlowDiagram.Schema
