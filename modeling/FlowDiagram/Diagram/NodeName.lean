import FlowDiagram.Fact.Basic
import FlowDiagram.Text.Edit
import FlowDiagram.Text.Letter

/-!
# Display names

Activity names repeat tokens that say nothing in a diagram, and some start with the number of a
step, which is shown on a line of its own.

## Main definitions

* `displayName`: an activity's name as it is shown.
-/

namespace FlowDiagram

/-- Puts whatever stands before the first letter on a line of its own. -/
def splitNumber (name : Text) : Text :=
  let number := name.takeWhile (!Text.isLetter ·)
  let word := name.dropWhile (!Text.isLetter ·)
  if number.isEmpty || word.isEmpty then name else number ++ "\n" ++ word

/-- An activity's name without the given tokens, with a leading step number on its own line. A name
of which nothing would be left is shown in full. -/
def displayName (tokens : List Text) (name : Name) : Text :=
  let short := tokens.foldl (fun text token => Text.removeAll token text) name
  if short.isEmpty then name else splitNumber short

end FlowDiagram
