import Runbook.Archive
import Runbook.CommandLine.Arguments
import Runbook.CommandLine.Help
import Runbook.CommandLine.Output
import Runbook.CommandLine.Program
import Runbook.CommandLine.Switch
import Runbook.Dict
import Runbook.Double.Basic
import Runbook.Double.Shortest
import Runbook.Engine.Advance
import Runbook.Engine.Attempt
import Runbook.Engine.Error
import Runbook.Engine.Event
import Runbook.Engine.Job
import Runbook.Engine.Orchestrator
import Runbook.Engine.Reference
import Runbook.Engine.Run
import Runbook.Engine.Simulation
import Runbook.Execution
import Runbook.FileTree
import Runbook.Host
import Runbook.Host.InMemory
import Runbook.Inference.Basic
import Runbook.Inference.Client
import Runbook.Instant
import Runbook.Json.Basic
import Runbook.Json.Number
import Runbook.Json.Printer
import Runbook.Json.Reader
import Runbook.Log
import Runbook.Main
import Runbook.Path
import Runbook.Settings.Basic
import Runbook.Settings.Document
import Runbook.Settings.Load
import Runbook.Settings.Reader
import Runbook.Text.Alphanumeric
import Runbook.Text.Blank
import Runbook.Text.Digits
import Runbook.Text.Lower
import Runbook.Text.Plain
import Runbook.Text.Quoted
import Runbook.Text.Slug
import Runbook.Text.Split
import Runbook.Text.Unseen
import Runbook.Text.Utf8
import Runbook.Toml.Basic
import Runbook.Toml.Reader
import Runbook.Toml.Scalar
import Runbook.Toml.Strings
import Runbook.Web.Address
import Runbook.Web.Client
import Runbook.Web.HostName
import Runbook.Web.Library
import Runbook.Web.Message
import Runbook.Web.Redirect
import Runbook.Web.Wire
import Runbook.Worker.Basic
import Runbook.Worker.Perform
import Runbook.Worker.Prompt
import Runbook.Worker.Registry
import Runbook.Worker.Report
import Runbook.Workflow.Basic
import Runbook.Workflow.Document
import Runbook.Workflow.Keyword
import Runbook.Workflow.Kind
import Runbook.Workflow.Library
import Runbook.Workflow.Parameter
import Runbook.Workflow.Property
import Runbook.Workflow.Validation
import Runbook.Proofs.Dictionary
import Runbook.Proofs.Worker.Report
import Runbook.Proofs.Workflow.Dependency
import Runbook.Proofs.Workflow.Cycle
import Runbook.Proofs.Workflow.Search
import Runbook.Proofs.Workflow.Depth
import Runbook.Proofs.Workflow.Validity
import Runbook.Proofs.Workflow.Scan
import Runbook.Proofs.Workflow.Outline
import Runbook.Proofs.Workflow.Juncture
import Runbook.Proofs.Workflow.Keyword
import Runbook.Proofs.Workflow.Value
import Runbook.Proofs.Engine.Jobs
import Runbook.Proofs.Engine.World
import Runbook.Proofs.Engine.Scene
import Runbook.Proofs.Engine.Shows
import Runbook.Proofs.Engine.Rounds
import Runbook.Proofs.Engine.Dispatch
import Runbook.Proofs.Engine.Clock
import Runbook.Proofs.Engine.Origin
import Runbook.Proofs.Engine.Closing
import Runbook.Proofs.Engine.Workshop
import Runbook.Proofs.Engine.Calls
import Runbook.Proofs.Engine.Return
import Runbook.Proofs.Engine.Failure
import Runbook.Proofs.Engine.Policy
import Runbook.Proofs.Engine.Record
import Runbook.Proofs.Engine.Replay
import Runbook.Proofs.Engine.Rehearsal
import Runbook.Proofs.Engine.Independence
import Runbook.Proofs.Engine.Protocol
import Runbook.Proofs.Engine.Stop
import Runbook.Proofs.Engine.Halt
import Runbook.Proofs.Engine.Preparation
import Runbook.Proofs.Engine.Filling
import Runbook.Proofs.Engine.Setting
import Runbook.Proofs.Engine.Strictness
import Runbook.Proofs.Engine.Operations
import Runbook.Proofs.Engine.Agree
import Runbook.Proofs.Engine.Noninterference
import Runbook.Proofs.Engine.FinalReport
import Runbook.Proofs.Engine.Epilogue
import Runbook.Proofs.Engine.ReportAccount
import Runbook.Proofs.Engine.Activity
import Runbook.Proofs.Simulation.Advance
import Runbook.Proofs.Simulation.Plan
import Runbook.Proofs.Simulation.Agenda
import Runbook.Proofs.Simulation.History
import Runbook.Proofs.Simulation.Rest
import Runbook.Proofs.Simulation.Sighting
import Runbook.Proofs.Simulation.Trial
import Runbook.Proofs.Simulation.Retry
import Runbook.Proofs.Execution.Attempts
import Runbook.Proofs.Execution.Drive
import Runbook.Proofs.Workflow.Number
import Runbook.Proofs.Worker.Prompt
import Runbook.Proofs.Workflow.Warning
import Runbook.Proofs.Workflow.Code
import Runbook.Proofs.Workflow.Veil
import Runbook.Proofs.Workflow.Fence
import Runbook.Proofs.Text.Trim
import Runbook.Proofs.Text.Parts
import Runbook.Proofs.Engine.Lookup
import Runbook.Proofs.Workflow.Parameter
import Runbook.Proofs.Workflow.Field
import Runbook.Proofs.Workflow.Sheet
import Runbook.Proofs.Workflow.Swap
import Runbook.Proofs.FileTree
import Runbook.Proofs.Archive
import Runbook.Proofs.Text.Slug
import Runbook.Proofs.Text.Lines
import Runbook.Proofs.Workflow.Tasks
import Runbook.Proofs.Workflow.Layout
import Runbook.Proofs.Workflow.Tidy
import Runbook.Proofs.Engine.Documents
import Runbook.Proofs.Inference.Token
import Runbook.Proofs.Engine.Extension
