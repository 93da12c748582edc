import FlowDiagram.Command.Outcome
import FlowDiagram.Command.Render

/-!
# The info command

Prints what the program is, what it can do, and the drawing options that the environment asks for.

## Main definitions

* `infoCommand`: the command.
-/

namespace FlowDiagram

/-- The only option of a command without settings. -/
inductive HelpOption
  | help
  deriving DecidableEq, Repr

/-- The option with its name. -/
def HelpOption.specs : List (OptionSpec HelpOption) :=
  [{ key := .help, long := "help" }]

/-- How the command is called. -/
def infoUsage : Usage :=
  { command := programName ++ " info"
    parameters := "[OPTIONS]"
    help := [
      "",
      "  Show version and configuration information.",
      "",
      "Options:",
      "  --help  Show this message and exit."] }

/-- The version of the program. -/
def programVersion : String := "0.1.0"

/-- The drawing options that can be set from outside. -/
def drawingDefaults (options : DrawingOptions) : Json :=
  .ofMembers [("show_conditions", .bool options.showConditions),
    ("show_legend", .bool options.showLegend), ("edge_style", .text options.routing.name),
    ("deduplicate", .bool options.deduplicate),
    ("summary_threshold", .integer options.summaryThreshold),
    ("bold_threshold", .integer options.boldThreshold)]

/-- What the program says about itself. -/
def programInfo (options : DrawingOptions) : Json :=
  .ofMembers [("name", .text programName), ("version", .text programVersion),
    ("description", .text "Render Behandling activity flows as Graphviz diagrams"),
    ("output_formats", .ofTexts outputFormats),
    ("edge_styles", .ofTexts (Routing.all.map fun routing => routing.name)),
    ("render_defaults", drawingDefaults options)]

/-- Prints what the program says about itself. -/
def infoCommand (surroundings : Surroundings) : CommandOutcome :=
  match FlowSettings.ofEnvironment surroundings.environment with
  | .error e => .misconfigured surroundings.disk [] e
  | .ok settings =>
    CommandOutcome.say surroundings.telemetry { disk := surroundings.disk }
      [.out (programInfo settings.drawing).pretty]

end FlowDiagram
