import BuildYard.Account
import BuildYard.Archive.Header
import BuildYard.Archive.Reader
import BuildYard.Archive.Writer
import BuildYard.Build.Action
import BuildYard.Build.Agent
import BuildYard.Build.Basic
import BuildYard.Build.Clean
import BuildYard.Build.Files
import BuildYard.Build.Resolve
import BuildYard.Build.Run
import BuildYard.Build.Yard
import BuildYard.BuildContext
import BuildYard.Bytes
import BuildYard.Bytes.Hex
import BuildYard.Command.Arguments
import BuildYard.Command.Failure
import BuildYard.Command.Invoke
import BuildYard.Command.Options
import BuildYard.Command.Ping
import BuildYard.Command.Run
import BuildYard.ContainerSet
import BuildYard.Engine.ApiPath
import BuildYard.Engine.ByApi
import BuildYard.Engine.ByCommand
import BuildYard.Engine.Call
import BuildYard.Engine.Driver
import BuildYard.Engine.Endpoint
import BuildYard.Engine.Frames
import BuildYard.Engine.InMemory
import BuildYard.Engine.Launch
import BuildYard.Engine.Replies
import BuildYard.Error
import BuildYard.FileTree
import BuildYard.Handle
import BuildYard.Helper
import BuildYard.Host
import BuildYard.ImageSource
import BuildYard.Json.Printer
import BuildYard.Json.Reader
import BuildYard.Json.Record
import BuildYard.Json.Value
import BuildYard.Log
import BuildYard.Log.Filter
import BuildYard.Log.Journal
import BuildYard.Main
import BuildYard.MemoryLimit
import BuildYard.Path
import BuildYard.Placement
import BuildYard.Program
import BuildYard.Proofs.Build.Ensures
import BuildYard.Proofs.Program.Traces
import BuildYard.Reference
import BuildYard.Rehearsal.Scene
import BuildYard.Rehearsal.Script
import BuildYard.Rehearsal.Shell
import BuildYard.Rehearsal.ShellText
import BuildYard.Rehearsal.Stage
import BuildYard.Relay
import BuildYard.Running
import BuildYard.Session
import BuildYard.Settings
import BuildYard.Starter
import BuildYard.Text.Blank
import BuildYard.Text.Digits
import BuildYard.Text.Literal
import BuildYard.Text.Unseen
import BuildYard.Text.Words
import BuildYard.Toml.Document
import BuildYard.Toml.Record
import BuildYard.Toml.Scalar
import BuildYard.Toml.Value
import BuildYard.Proofs.Build.Preparation
import BuildYard.Proofs.Build.Moves
import BuildYard.Proofs.Build.Dispatch
import BuildYard.Proofs.Build.Runs
import BuildYard.Proofs.Build.Ledger
import BuildYard.Proofs.Build.Plays
import BuildYard.Proofs.Build.Removal
import BuildYard.Proofs.Build.Order
import BuildYard.Proofs.Build.Sharing
import BuildYard.Proofs.Build.Validation
import BuildYard.Proofs.Build.Atomicity
import BuildYard.Proofs.Build.Attempts
import BuildYard.Proofs.Program.Observation
import BuildYard.Proofs.Program.Relays
import BuildYard.Proofs.Engine.Requests
import BuildYard.Proofs.Engine.Launches
import BuildYard.Proofs.Engine.Ways
import BuildYard.Proofs.Engine.Settlement
import BuildYard.Proofs.Build.Handles
import BuildYard.Proofs.Engine.Naming
import BuildYard.Proofs.Build.Drives
import BuildYard.Proofs.Build.Identification
import BuildYard.Proofs.Text.Digits
import BuildYard.Proofs.Build.Stock
import BuildYard.Proofs.Build.Belongings
import BuildYard.Proofs.Build.Neighbours
import BuildYard.Proofs.Build.Succession
import BuildYard.Proofs.Build.Needs
import BuildYard.Proofs.Build.Processes
import BuildYard.Proofs.Build.Images
import BuildYard.Proofs.Build.Setbacks
import BuildYard.Proofs.Program.Questions
import BuildYard.Proofs.Build.Probes
import BuildYard.Proofs.Build.Asks
import BuildYard.Proofs.Build.Deeds
import BuildYard.Proofs.Command.Duties
import BuildYard.Proofs.Command.Conduct
import BuildYard.Proofs.Command.Orders
import BuildYard.Proofs.Command.Clearance
import BuildYard.Proofs.Program.Likeness
import BuildYard.Proofs.Engine.Errands
import BuildYard.Proofs.Engine.Translations
import BuildYard.Proofs.Engine.Unfolding
import BuildYard.Proofs.Engine.Interchange
import BuildYard.Proofs.Build.Environment
import BuildYard.Proofs.Build.Material
import BuildYard.Proofs.Build.Accompaniment
import BuildYard.Proofs.Build.Collisions
import BuildYard.Proofs.Engine.Secrecy
import BuildYard.Proofs.Text.Bytes
import BuildYard.Proofs.Text.Paths
import BuildYard.Proofs.Archive.Blocks
import BuildYard.Proofs.Archive.Names
import BuildYard.Proofs.Archive.Reading
import BuildYard.Proofs.Files.Trees
import BuildYard.Proofs.Files.Walks
import BuildYard.Proofs.Files.Contexts
import BuildYard.Proofs.Engine.RawOptions
import BuildYard.Proofs.Command.Executions
import BuildYard.Proofs.Command.Reckoning
import BuildYard.Proofs.Engine.Stopping
import BuildYard.Proofs.Engine.Routing
import BuildYard.Proofs.Command.ExitCodes
import BuildYard.Proofs.Engine.Feeding
import BuildYard.Proofs.Archive.Cuts
import BuildYard.Proofs.Archive.SingleFile
import BuildYard.Proofs.Files.Accounts
import BuildYard.Proofs.Engine.Service
import BuildYard.Proofs.Engine.Injection
import BuildYard.Proofs.Text.Json
import BuildYard.Proofs.Command.CarryOvers
import BuildYard.Proofs.Command.Variables
import BuildYard.Proofs.Text.Limits
import BuildYard.Proofs.Engine.References
import BuildYard.Proofs.Engine.MemoryRequests
import BuildYard.Proofs.Command.Programs
import BuildYard.Proofs.Causes
