import FlowDiagram.Json.Shown
import FlowDiagram.Number.Amount

/-!
# Attributes

Spans and amounts are described by attributes: named values, in the order in which they were given.
Attributes without a name are dropped, inside values too, and a span keeps only the newest of very
many.

Two values are the same if they have the same kind and the same value: the integer 1, the decimal
1.0 and the boolean true are three different values, however 1.0 is written. Sorting looks at the
numbers alone, so those three have no order among themselves. Values of other kinds cannot be
sorted at all.

## Main definitions

* `Attributes.ofMembers`: attributes from the members of an object.
* `Attributes.cleaned`: the named attributes, and how many were dropped.
* `Attributes.same`, `Attributes.before`: sameness and order of combinations of attributes.
* `Attributes.onSpan`: what a span keeps of its attributes.
-/

namespace FlowDiagram

/-- Attributes in the order in which they were given. -/
abbrev Attributes := List (Text × Json)

namespace Attributes

/-! ## Names -/

/-- Adds an attribute. An earlier one of the same name changes its value where it stands. -/
def set (name : Text) (value : Json) : Attributes → Attributes
  | [] => [(name, value)]
  | first :: rest =>
    if first.1 = name then (name, value) :: rest else first :: set name value rest

/-- Attributes from pairs of names and values; the last value of each name counts. -/
def ofMembers (members : List (Text × Json)) : Attributes :=
  members.foldl (fun attributes member => attributes.set member.1 member.2) []

/-- Whether a value counts as nothing: null, false, zero, or empty. -/
def isNothing : Json → Bool
  | .null => true
  | .text content => content.isEmpty
  | .list items => items.isEmpty
  | .object members => members.isEmpty
  | value => (Amount.ofJson? value).any (·.equals .zero)

/-- The attributes that are given as a value: the members of an object, and none if the value counts
as nothing. The kind of any other value is the error. -/
def ofJson : Json → Except String Attributes
  | .object members => .ok (ofMembers members)
  | value => if isNothing value then .ok [] else .error value.kindName

/-- The JSON object of attributes. -/
def toJson (attributes : Attributes) : Json :=
  .object attributes

mutual

/-- A value without the nameless members inside it, and how many there were. -/
def cleanValue : Json → Json × Nat
  | .list items =>
    let (items, dropped) := cleanItems items
    (.list items, dropped)
  | .object members =>
    let (members, dropped) := cleanMembers members
    (.object members, dropped)
  | value => (value, 0)

/-- Items without the nameless members inside them, and how many there were. -/
def cleanItems : List Json → List Json × Nat
  | [] => ([], 0)
  | item :: items =>
    let (item, here) := cleanValue item
    let (items, there) := cleanItems items
    (item :: items, here + there)

/-- The named members, cleaned as well, and how many nameless ones there were. -/
def cleanMembers : List (Text × Json) → List (Text × Json) × Nat
  | [] => ([], 0)
  | (key, value) :: members =>
    let (members, there) := cleanMembers members
    if key.isEmpty then (members, there + 1)
    else
      let (value, here) := cleanValue value
      ((key, value) :: members, here + there)

end

/-- The named attributes, cleaned as well, and how many nameless ones there were. -/
def cleaned (attributes : Attributes) : Attributes × Nat :=
  cleanMembers attributes

/-! ## Sameness -/

/-- The kinds of values that hold no others. -/
inductive AtomKind
  | null
  | boolean
  | integer
  | decimal
  | text
  deriving DecidableEq, Repr

/-- The kind of a value that holds no others. -/
def atomKind? : Json → Option AtomKind
  | .null => some .null
  | .bool _ => some .boolean
  | .integer _ => some .integer
  | .decimal _ | .infinity _ | .notANumber => some .decimal
  | .text _ => some .text
  | .list _ | .object _ => none

/-- Whether two values that hold no others are equal. Numbers are compared by their value, and the
boolean values count as zero and one. -/
def atomsEqual : Json → Json → Bool
  | .null, .null => true
  | .text s, .text t => s = t
  | a, b =>
    match Amount.ofJson? a, Amount.ofJson? b with
    | some m, some n => m.equals n
    | _, _ => false

/-- Whether two values that hold no others are the same: equal, and of one kind. -/
def atomsSame (a b : Json) : Bool :=
  atomKind? a = atomKind? b && atomsEqual a b

mutual

/-- Whether two values agree: they are built alike, and so are the values in the same places, by
a relation between those that hold no others. -/
def agree (atoms : Json → Json → Bool) : Json → Json → Bool
  | .list as, b =>
    match b with
    | .list bs => itemsAgree atoms as bs
    | _ => false
  | .object as, b =>
    match b with
    | .object bs => as.length = bs.length && membersAgree atoms as bs
    | _ => false
  | a, b => atoms a b

/-- Whether two lists hold values that agree. -/
def itemsAgree (atoms : Json → Json → Bool) : List Json → List Json → Bool
  | [], bs => bs.isEmpty
  | a :: as, bs =>
    match bs with
    | b :: bs => agree atoms a b && itemsAgree atoms as bs
    | [] => false

/-- Whether all members are found among others. -/
def membersAgree (atoms : Json → Json → Bool) :
    List (Text × Json) → List (Text × Json) → Bool
  | [], _ => true
  | (key, a) :: as, bs =>
    (Json.lookup key bs).any (agree atoms a) && membersAgree atoms as bs

end

/-- Whether two combinations of attributes are the same, in whatever order they were given. -/
def same (a b : Attributes) : Bool :=
  agree atomsSame (.object a) (.object b)

/-! ## Order -/

/-- Whether two values are equal; the kinds of numbers do not matter. -/
def equal (a b : Json) : Bool :=
  agree atomsEqual a b

/-- The kinds of two values that have no order. -/
structure Unordered where
  left : String
  right : String
  deriving DecidableEq, Repr

/-- How the kind of a value is called when it is sorted; lists are no longer changed then. -/
def sortedKind : Json → String
  | .list _ => "tuple"
  | value => value.kindName

mutual

/-- Whether a value comes before another one: numbers by size, texts by their code points, lists by
the first item in which they differ. -/
def valueBefore : Json → Json → Except Unordered Bool
  | .list as, b =>
    match b with
    | .list bs => itemsBefore as bs
    | _ => .error ⟨sortedKind (.list as), sortedKind b⟩
  | a, b =>
    match Amount.ofJson? a, Amount.ofJson? b, a, b with
    | some m, some n, _, _ => .ok (m.isBelow n)
    | _, _, .text s, .text t => .ok (decide (s < t))
    | _, _, _, _ => .error ⟨sortedKind a, sortedKind b⟩

/-- Whether a list comes before another one. -/
def itemsBefore : List Json → List Json → Except Unordered Bool
  | [], bs => .ok !bs.isEmpty
  | a :: as, bs =>
    match bs with
    | b :: bs => if equal a b then itemsBefore as bs else valueBefore a b
    | [] => .ok false

end

/-- Attributes sorted by their names. -/
def sorted (attributes : Attributes) : Attributes :=
  attributes.mergeSort fun a b => !decide (b.1 < a.1)

/-- Whether sorted attributes come before others, name by name and value by value. -/
def sortedBefore : Attributes → Attributes → Except Unordered Bool
  | _, [] => .ok false
  | [], _ :: _ => .ok true
  | (m, a) :: as, (n, b) :: bs =>
    if m ≠ n then .ok (decide (m < n))
    else if equal a b then sortedBefore as bs
    else valueBefore a b

/-- Whether attributes come before others. -/
def before (a b : Attributes) : Except Unordered Bool :=
  sortedBefore a.sorted b.sorted

/-! ## Spans -/

/-- The number of attributes that a span keeps. -/
def spanLimit : Nat := 128

/-- What happens to an attribute when it is put on a span. -/
inductive Loss
  /-- It has no name and is dropped. -/
  | nameless
  /-- Something inside its value has no name and is dropped. -/
  | namelessInside
  /-- The oldest attribute makes room for it. -/
  | oldest
  deriving DecidableEq, Repr

/-- Puts one more attribute on a span and tells what got lost. -/
def putOnSpan (kept : Attributes) (name : Text) (value : Json) : Attributes × List Loss :=
  if name.isEmpty then (kept, [.nameless])
  else
    let (value, dropped) := cleanValue value
    let losses := List.replicate dropped Loss.namelessInside
    if kept.length < spanLimit then (kept ++ [(name, value)], losses)
    else (kept.drop 1 ++ [(name, value)], losses ++ [.oldest])

/-- What a span keeps of attributes, and what gets lost on the way. -/
def onSpan (attributes : Attributes) : Attributes × List Loss :=
  attributes.foldl
    (fun (kept, losses) (name, value) =>
      let (kept, more) := kept.putOnSpan name value
      (kept, losses ++ more)) ([], [])

end Attributes

end FlowDiagram
