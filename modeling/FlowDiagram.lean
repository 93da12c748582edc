import FlowDiagram.Command.Arguments
import FlowDiagram.Command.Changes
import FlowDiagram.Command.Info
import FlowDiagram.Command.Inspect
import FlowDiagram.Command.Outcome
import FlowDiagram.Command.Program
import FlowDiagram.Command.Render
import FlowDiagram.Command.Report
import FlowDiagram.Command.Usage
import FlowDiagram.Diagram.Condition
import FlowDiagram.Diagram.Drawing
import FlowDiagram.Diagram.EdgeStyle
import FlowDiagram.Diagram.Legend
import FlowDiagram.Diagram.NodeName
import FlowDiagram.Diagram.NodeStyle
import FlowDiagram.Diagram.Options
import FlowDiagram.Diagram.Routing
import FlowDiagram.Diagram.Structure
import FlowDiagram.Dot.Graph
import FlowDiagram.Dot.Token
import FlowDiagram.Fact.Basic
import FlowDiagram.Fact.Index
import FlowDiagram.Fact.Loading
import FlowDiagram.Fact.Schema
import FlowDiagram.Fact.Table
import FlowDiagram.Files.Disk
import FlowDiagram.Files.Path
import FlowDiagram.Flow.Generation
import FlowDiagram.Flow.ImageFormat
import FlowDiagram.Flow.Output
import FlowDiagram.Flow.Reporting
import FlowDiagram.Flow.Result
import FlowDiagram.Flow.Run
import FlowDiagram.Flow.Settings
import FlowDiagram.Flow.Task
import FlowDiagram.Graph.Adjacency
import FlowDiagram.Graph.Consolidation
import FlowDiagram.Graph.Cycle
import FlowDiagram.Graph.DepthFirst
import FlowDiagram.Graph.DisjointSets
import FlowDiagram.Graph.Edge
import FlowDiagram.Graph.EdgeSchema
import FlowDiagram.Graph.Iteration
import FlowDiagram.Graph.Walk
import FlowDiagram.Json.Reader
import FlowDiagram.Json.Shown
import FlowDiagram.Json.Value
import FlowDiagram.Json.Writer
import FlowDiagram.Main
import FlowDiagram.Number.Amount
import FlowDiagram.Number.Binary
import FlowDiagram.Number.Shortest
import FlowDiagram.Proofs.Command.Render
import FlowDiagram.Proofs.Command.Settings
import FlowDiagram.Proofs.Command.Unusable
import FlowDiagram.Proofs.Diagram.Condition
import FlowDiagram.Proofs.Diagram.Drawing
import FlowDiagram.Proofs.Diagram.Emission
import FlowDiagram.Proofs.Diagram.Facts
import FlowDiagram.Proofs.Diagram.ObjectPaths
import FlowDiagram.Proofs.Diagram.Outline
import FlowDiagram.Proofs.Diagram.Structure
import FlowDiagram.Proofs.Dot.LabelTexts
import FlowDiagram.Proofs.Dot.Labels
import FlowDiagram.Proofs.Dot.Lexer
import FlowDiagram.Proofs.Dot.Names
import FlowDiagram.Proofs.Dot.Reader
import FlowDiagram.Proofs.Dot.Statements
import FlowDiagram.Proofs.Dot.Token
import FlowDiagram.Proofs.Fact.Alike
import FlowDiagram.Proofs.Fact.ClassNames
import FlowDiagram.Proofs.Fact.Discovery
import FlowDiagram.Proofs.Fact.EntryPoints
import FlowDiagram.Proofs.Fact.Index
import FlowDiagram.Proofs.Fact.Overwrites
import FlowDiagram.Proofs.Fact.Respelling
import FlowDiagram.Proofs.Fact.Selection
import FlowDiagram.Proofs.Fact.Supertypes
import FlowDiagram.Proofs.Fact.Unusable
import FlowDiagram.Proofs.Fact.Winners
import FlowDiagram.Proofs.Files.Changes
import FlowDiagram.Proofs.Files.Folders
import FlowDiagram.Proofs.Files.Names
import FlowDiagram.Proofs.Files.Places
import FlowDiagram.Proofs.Flow.Completion
import FlowDiagram.Proofs.Flow.DeadEnds
import FlowDiagram.Proofs.Flow.Delivery
import FlowDiagram.Proofs.Flow.FactOrder
import FlowDiagram.Proofs.Flow.FanOut
import FlowDiagram.Proofs.Flow.FeatureFlags
import FlowDiagram.Proofs.Flow.HiddenConditions
import FlowDiagram.Proofs.Flow.Isolation
import FlowDiagram.Proofs.Flow.Layout
import FlowDiagram.Proofs.Flow.Ledger
import FlowDiagram.Proofs.Flow.Loading
import FlowDiagram.Proofs.Flow.LostLog
import FlowDiagram.Proofs.Flow.Output
import FlowDiagram.Proofs.Flow.Reach
import FlowDiagram.Proofs.Flow.Process
import FlowDiagram.Proofs.Flow.ReadBack
import FlowDiagram.Proofs.Flow.Reporting
import FlowDiagram.Proofs.Flow.ReservedNames
import FlowDiagram.Proofs.Flow.Task
import FlowDiagram.Proofs.Graph.Arrows
import FlowDiagram.Proofs.Graph.BackEdges
import FlowDiagram.Proofs.Graph.Blocks
import FlowDiagram.Proofs.Graph.Components
import FlowDiagram.Proofs.Graph.Consolidated
import FlowDiagram.Proofs.Graph.ConsolidatedCycles
import FlowDiagram.Proofs.Graph.Consolidation
import FlowDiagram.Proofs.Graph.DepthFirst
import FlowDiagram.Proofs.Graph.DisjointSets
import FlowDiagram.Proofs.Graph.EdgeOrder
import FlowDiagram.Proofs.Graph.FanOut
import FlowDiagram.Proofs.Graph.FanOutChains
import FlowDiagram.Proofs.Graph.Forest
import FlowDiagram.Proofs.Graph.Iteration
import FlowDiagram.Proofs.Graph.Outbound
import FlowDiagram.Proofs.Graph.Parallel
import FlowDiagram.Proofs.Graph.PreOrder
import FlowDiagram.Proofs.Graph.Reachability
import FlowDiagram.Proofs.Graph.VisitOrder
import FlowDiagram.Proofs.Graph.Visits
import FlowDiagram.Proofs.Graph.Walk
import FlowDiagram.Proofs.Graph.WithoutCondition
import FlowDiagram.Proofs.Schema.Spelling
import FlowDiagram.Proofs.Sequence.Turns
import FlowDiagram.Proofs.Telemetry.Accounts
import FlowDiagram.Proofs.Telemetry.EarlyLog
import FlowDiagram.Proofs.Telemetry.Logging
import FlowDiagram.Proofs.Telemetry.Reports
import FlowDiagram.Proofs.Telemetry.Tallies
import FlowDiagram.Proofs.Text.Lossless
import FlowDiagram.Proofs.Text.Order
import FlowDiagram.Proofs.Text.Removal
import FlowDiagram.Proofs.Text.Tidy
import FlowDiagram.Proofs.Text.Utf8
import FlowDiagram.Schema.Checked
import FlowDiagram.Schema.Field
import FlowDiagram.Schema.Numeral
import FlowDiagram.Sequence.Distinct
import FlowDiagram.Sequence.Merge
import FlowDiagram.Sequence.Search
import FlowDiagram.Sequence.Sorted
import FlowDiagram.Sequence.Unseen
import FlowDiagram.Telemetry.Attributes
import FlowDiagram.Telemetry.Call
import FlowDiagram.Telemetry.Level
import FlowDiagram.Telemetry.Log
import FlowDiagram.Telemetry.Metric
import FlowDiagram.Telemetry.Note
import FlowDiagram.Telemetry.State
import FlowDiagram.Text.Basic
import FlowDiagram.Text.Blank
import FlowDiagram.Text.CaseIgnorable
import FlowDiagram.Text.Cased
import FlowDiagram.Text.Digit
import FlowDiagram.Text.Edit
import FlowDiagram.Text.Integer
import FlowDiagram.Text.Letter
import FlowDiagram.Text.Lines
import FlowDiagram.Text.LowerCase
import FlowDiagram.Text.Printable
import FlowDiagram.Text.Quoted
import FlowDiagram.Text.Ranges
import FlowDiagram.Text.Raw
import FlowDiagram.Text.Resemblance
import FlowDiagram.Text.Styling
import FlowDiagram.Text.Utf8
