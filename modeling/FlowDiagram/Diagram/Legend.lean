import FlowDiagram.Diagram.NodeStyle

/-!
# The legend

The legend explains the colours of a diagram in a table, which is written as an HTML-like label.

## Main definitions

* `Legend.entries`: the colours and what they mean.
* `Legend.html`: a legend as a label.
-/

namespace FlowDiagram.Legend

/-- The reserved name of the legend's node. -/
def node : Name := "__legend__"

/-- The colours and what they mean. -/
def entries : List (Text × Text) :=
  [(Role.entry.colour, "START"),
    (Role.highlight.colour, "AldeAktivitet"),
    (Role.manualTask.colour, manualTaskGlyph ++ " Creates Oppgave"),
    (Role.plain.colour, "Regular"),
    (Role.waiting.colour, "Waiting"),
    (Role.manual.colour, "Manual"),
    (Role.abort.colour, "Abort"),
    (Role.decision.colour, "Decision"),
    (Role.finish.colour, "END"),
    (Role.missing.colour, "Unknown")]

/-- The title of a legend. -/
def title : Text := "Legend"

/-- The row of one entry. -/
def row (entry : Text × Text) : Text :=
  "<TR><TD BGCOLOR=\"" ++ entry.1 ++ "\">  </TD><TD ALIGN=\"LEFT\">" ++ entry.2 ++ "</TD></TR>"

/-- A legend as a label. -/
def html (entries : List (Text × Text)) (title : Text) : Text :=
  "<<TABLE BORDER=\"0\" CELLBORDER=\"1\" CELLSPACING=\"0\" CELLPADDING=\"4\">" ++
    "<TR><TD COLSPAN=\"2\" BGCOLOR=\"#E8E8E8\"><B>" ++ title ++ "</B></TD></TR>" ++
    entries.flatMap row ++ "</TABLE>>"

end FlowDiagram.Legend
