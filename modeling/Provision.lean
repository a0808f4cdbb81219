import Provision.CommandLine
import Provision.Digest
import Provision.Disk
import Provision.Disk.Step
import Provision.Disk.Walk
import Provision.Download
import Provision.Error
import Provision.Fault
import Provision.Fetch
import Provision.Http
import Provision.Http.Exchange
import Provision.Instant
import Provision.Instant.Text
import Provision.Json
import Provision.Json.Reader
import Provision.Kernel
import Provision.Log
import Provision.LogFilter
import Provision.Machine
import Provision.Main
import Provision.Nightly
import Provision.Patch
import Provision.Path
import Provision.Plan
import Provision.Platform
import Provision.Program
import Provision.Record
import Provision.Rehearsal
import Provision.Rehearsal.Net
import Provision.Rehearsal.Stage
import Provision.Rehearsal.World
import Provision.Release
import Provision.Root
import Provision.Server
import Provision.Session
import Provision.Settings
import Provision.Settings.File
import Provision.Setup
import Provision.Shell.Arithmetic
import Provision.Shell.Builtin
import Provision.Shell.Call
import Provision.Shell.Command
import Provision.Shell.Complaint
import Provision.Shell.Condition
import Provision.Shell.Desk
import Provision.Shell.Expand
import Provision.Shell.Invocation
import Provision.Shell.Lookup
import Provision.Shell.Pattern
import Provision.Shell.Perform
import Provision.Shell.Reach
import Provision.Shell.Redirection
import Provision.Shell.Run
import Provision.Shell.State
import Provision.Shell.Token
import Provision.Shell.Tool
import Provision.Shell.Tool.Bytes
import Provision.Shell.Tool.Columns
import Provision.Shell.Tool.Date
import Provision.Shell.Tool.Edit
import Provision.Shell.Tool.Expr
import Provision.Shell.Tool.Files
import Provision.Shell.Tool.Find
import Provision.Shell.Tool.Host
import Provision.Shell.Tool.Lines
import Provision.Shell.Tool.Order
import Provision.Shell.Tool.Print
import Provision.Shell.Tool.Search
import Provision.Shell.Tool.Test
import Provision.Shell.Word
import Provision.Site
import Provision.Store
import Provision.Terminal
import Provision.Text.Base64
import Provision.Text.Blank
import Provision.Text.Composition
import Provision.Text.Decimal
import Provision.Text.Direction
import Provision.Text.Folding
import Provision.Text.Joining
import Provision.Text.Letter
import Provision.Text.Regex
import Provision.Text.Regex.Classic
import Provision.Text.Regex.Reader
import Provision.Text.Rounded
import Provision.Text.Table
import Provision.Text.Utf8
import Provision.Toml
import Provision.Toml.Quoted
import Provision.Toml.Reader
import Provision.Toml.Scalar
import Provision.Url
import Provision.Url.Host
import Provision.Url.Punycode
import Provision.Url.Reader
import Provision.Url.Wire
import Provision.Proofs.Course
import Provision.Proofs.Disk
import Provision.Proofs.Disk.Walk
import Provision.Proofs.Disk.Ways
import Provision.Proofs.Disk.Step
import Provision.Proofs.Berth
import Provision.Proofs.Path.Ending
import Provision.Proofs.Server.Script
import Provision.Proofs.Server.Order
import Provision.Proofs.Law
import Provision.Proofs.Lodging
import Provision.Proofs.Store
import Provision.Proofs.Store.Contents
import Provision.Proofs.Store.Atomic
import Provision.Proofs.Machine
import Provision.Proofs.Http
import Provision.Proofs.Disk.Temp
import Provision.Proofs.Download
import Provision.Proofs.Instant
import Provision.Proofs.Patch
import Provision.Proofs.Patch.Restore
import Provision.Proofs.Server.History
import Provision.Proofs.Server.Install
import Provision.Proofs.Server.Trial
import Provision.Proofs.Server.Serve
import Provision.Proofs.Server.Failure
import Provision.Proofs.Delivery
import Provision.Proofs.Server.Converge
import Provision.Proofs.Instant.Order
import Provision.Proofs.Instant.Elapsed
import Provision.Proofs.Nightly.Script
import Provision.Proofs.Nightly.Pace
import Provision.Proofs.Nightly.Due
import Provision.Proofs.Nightly.Order
import Provision.Proofs.Nightly.Cleared
import Provision.Proofs.Nightly.Unseen
import Provision.Proofs.Lodging.Tidy
import Provision.Proofs.Lodging.Even
import Provision.Proofs.Lodging.Solitude
import Provision.Proofs.Lodging.Linkless
import Provision.Proofs.Lodging.Cleared
import Provision.Proofs.Lodging.Sprouts
import Provision.Proofs.Lodging.Sight
import Provision.Proofs.Store.Steps
import Provision.Proofs.Store.Together
import Provision.Proofs.Store.Verdict
import Provision.Proofs.Crew
import Provision.Proofs.Server.Told
import Provision.Proofs.Server.Agreed
import Provision.Proofs.Session.World
import Provision.Proofs.Session.Served
import Provision.Proofs.Session.Snapshot
import Provision.Proofs.Session.Apart
import Provision.Proofs.Json.Grammar
import Provision.Proofs.Json.Reader
import Provision.Proofs.Record.Encoding
import Provision.Proofs.Session.Damaged
import Provision.Proofs.Session.Outcome
import Provision.Proofs.Http.Ended
import Provision.Proofs.Fetch
import Provision.Proofs.Fetch.Trouble
import Provision.Proofs.Url.Escape
import Provision.Proofs.Url.Path
import Provision.Proofs.Fetch.Address
import Provision.Proofs.Fetch.Naming
import Provision.Proofs.Fetch.Asked
import Provision.Proofs.Disk.Sound
import Provision.Proofs.Download.Status
import Provision.Proofs.Fetch.Success
import Provision.Proofs.Reach
import Provision.Proofs.Server.Online
import Provision.Proofs.Path.Components
import Provision.Proofs.Path.Ancestors
import Provision.Proofs.Root
import Provision.Proofs.Disk.Linkless
import Provision.Proofs.Root.Relative
import Provision.Proofs.Toml
import Provision.Proofs.Settings
import Provision.Proofs.Settings.Load
import Provision.Proofs.Disk.Reopened
import Provision.Proofs.Settings.Created
import Provision.Proofs.Download.Silence
