import FlowDiagram.Text.Blank

/-!
# Editing texts

The edits that turn names and conditions into labels. Lengths and cuts count code
points.

## Main definitions

* `trim`: drops the blanks at both ends.
* `collapse`: turns every run of blanks into one space.
* `removeAll`: deletes every occurrence of a token, from left to right, without overlap.
* `occurs`: whether a text holds another one.
* `splitAt`: cuts a text in two at a token.
* `cut`: keeps a text up to a position, counted from the end when the position is negative.
-/

namespace FlowDiagram.Text

/-- Drops the characters of a class at both ends of a text. -/
def trimBy (p : CodePoint → Bool) (text : Text) : Text :=
  ((text.dropWhile p).reverse.dropWhile p).reverse

/-- Drops the blanks at both ends of a text. -/
def trim (text : Text) : Text :=
  trimBy isBlank text

/-- Collapses runs of blanks; `inRun` says whether the character before was a blank. -/
def collapseFrom (inRun : Bool) : Text → Text
  | [] => []
  | c :: rest =>
    if isBlank c then
      if inRun then collapseFrom true rest else .char ' ' :: collapseFrom true rest
    else c :: collapseFrom false rest

/-- Turns every run of blanks into a single space. -/
def collapse (text : Text) : Text :=
  collapseFrom false text

/-- Deletes occurrences of a token; `skip` characters still belong to the last one found. -/
def removeFrom (token : Text) : Nat → Text → Text
  | _, [] => []
  | skip + 1, _ :: rest => removeFrom token skip rest
  | 0, c :: rest =>
    if token.isPrefixOf (c :: rest) then removeFrom token (token.length - 1) rest
    else c :: removeFrom token 0 rest

/-- Deletes every occurrence of a token, from left to right and without overlap. The empty token
deletes nothing. -/
def removeAll (token text : Text) : Text :=
  if token.isEmpty then text else removeFrom token 0 text

/-- Whether a text holds a token as a contiguous part. -/
def occurs (token : Text) : Text → Bool
  | [] => token.isEmpty
  | c :: rest => token.isPrefixOf (c :: rest) || occurs token rest

/-- What stands before the first occurrence of a token, and what stands behind it. Without an
occurrence, the whole text stands before it. -/
def splitAt (token : Text) : Text → Text × Text
  | [] => ([], [])
  | c :: rest =>
    if token.isPrefixOf (c :: rest) then ([], (c :: rest).drop token.length)
    else
      let (before, behind) := splitAt token rest
      (c :: before, behind)

/-- The part of a text before a position. A negative position counts from the end, and positions
outside the text mean its nearer end. -/
def cut (text : Text) (position : Int) : Text :=
  if position < 0 then text.take (text.length + position).toNat else text.take position.toNat

/-- The ASCII letters of a text in lower case, everything else as it is. -/
def lowerAscii (text : Text) : Text :=
  text.map fun
    | .char c => .char c.toLower
    | point => point

/-- A text holds a token if something stands in front of the token and something behind it. -/
theorem occurs_iff_isInfix {token text : Text} : occurs token text = true ↔ token <:+: text := by
  induction text with
  | nil => simp [occurs]
  | cons c rest ih =>
    rw [occurs, Bool.or_eq_true, ih, List.isPrefixOf_iff_prefix, List.infix_cons_iff]

@[simp] theorem removeAll_nil (text : Text) : removeAll [] text = text := by
  simp [removeAll]

theorem cut_of_nonneg {position : Int} (h : 0 ≤ position) (text : Text) :
    cut text position = text.take position.toNat := by
  simp [cut, Int.not_lt.mpr h]

end FlowDiagram.Text
