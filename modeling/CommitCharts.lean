import CommitCharts.Main
import CommitCharts.Proofs.CommandLine.ExitCode
import CommitCharts.Proofs.Store.Window
import CommitCharts.Record.Json
import CommitCharts.Proofs.FileTree.Contents
import CommitCharts.Proofs.Plan.Frame
import CommitCharts.Proofs.Store.Cut
import CommitCharts.Proofs.Store.Recency
import CommitCharts.Proofs.Store.Regular
import CommitCharts.Proofs.Store.Slide
import CommitCharts.Proofs.FileTree.Closed
import CommitCharts.Proofs.Path.Names
import CommitCharts.Proofs.FileTree.Descent
import CommitCharts.Proofs.Plan.Again
import CommitCharts.Proofs.FileTree.Obstacle
import CommitCharts.Proofs.Plan.Verdict
import CommitCharts.Proofs.Axis
import CommitCharts.Proofs.Chart.Draw
import CommitCharts.Proofs.Plan.Order
import CommitCharts.Proofs.Binary64.Grid
import CommitCharts.Proofs.Binary64.Value
import CommitCharts.Proofs.Binary64.Rounding
import CommitCharts.Proofs.Binary64.Arithmetic
import CommitCharts.Proofs.Series.Summary
import CommitCharts.Proofs.Store.Fetch
import CommitCharts.Proofs.Series.Extend
import CommitCharts.Proofs.Series.Table
import CommitCharts.Proofs.Store.Extend
import CommitCharts.Proofs.Config
import CommitCharts.Proofs.Run.Regular
import CommitCharts.Proofs.Database.RowFault
import CommitCharts.Proofs.Store.Limit
import CommitCharts.Proofs.Path.Components
import CommitCharts.Proofs.Store.Unrelated
import CommitCharts.Proofs.Plan.Entry
import CommitCharts.Proofs.Plan.Overlap
import CommitCharts.Proofs.Path.Join
import CommitCharts.Proofs.CommandLine.Settings
import CommitCharts.Json.Reader
import CommitCharts.Proofs.CommandLine.RowLimit
import CommitCharts.Proofs.Decimal
import CommitCharts.Proofs.Plan.InMemory
import CommitCharts.Proofs.Json.Scalar
import CommitCharts.Proofs.Json.Value
import CommitCharts.Proofs.Json.Lossless
import CommitCharts.Proofs.Yaml.Scalar
import CommitCharts.Proofs.Yaml.Step
import CommitCharts.Proofs.Yaml.Line
import CommitCharts.Proofs.Yaml.Lines
import CommitCharts.Proofs.Yaml.Tree
import CommitCharts.Proofs.Config.Fields
