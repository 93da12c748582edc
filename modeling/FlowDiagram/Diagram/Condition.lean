import FlowDiagram.Diagram.Options

/-!
# Condition texts

A condition is shown on one line without the object paths that every condition repeats, and it is
shortened when it is too long.

## Main definitions

* `formatCondition`: a condition as it is shown.
-/

namespace FlowDiagram

/-- What ends a shortened text. -/
def ellipsis : Text := "..."

/-- Shortens a text to a length, its ellipsis included. -/
def shortenTo (limit : Int) (text : Text) : Text :=
  if limit < text.length then Text.cut text (limit - 3) ++ ellipsis else text

/-- A condition as it is shown: blanks collapsed and trimmed, the configured beginnings of object
paths removed one after the other, and the rest shortened. -/
def formatCondition (options : DrawingOptions) (condition : Text) : Text :=
  let oneLine := Text.trim (Text.collapse condition)
  let bare := options.conditionPrefixes.foldl (fun text path => Text.removeAll path text) oneLine
  shortenTo options.conditionMaxLength bare

end FlowDiagram
