import FleetSchema.Catalogue
import FleetSchema.Cluster
import FleetSchema.Cluster.Uri
import FleetSchema.CommandLine
import FleetSchema.CommandLine.Application
import FleetSchema.CommandLine.Arguments
import FleetSchema.CommandLine.Grammar
import FleetSchema.CommandLine.Inspection
import FleetSchema.CommandLine.Stop
import FleetSchema.CommandLine.Surroundings
import FleetSchema.Connection
import FleetSchema.Console
import FleetSchema.Console.Table
import FleetSchema.Diagnostics
import FleetSchema.Engine
import FleetSchema.Event
import FleetSchema.Execution
import FleetSchema.Fault
import FleetSchema.Fault.Defect
import FleetSchema.FileTree
import FleetSchema.Filter
import FleetSchema.Job.Document
import FleetSchema.Job.Generator
import FleetSchema.Job.Key
import FleetSchema.Json
import FleetSchema.Lookup
import FleetSchema.Main
import FleetSchema.Management
import FleetSchema.Management.Iteration
import FleetSchema.Number.Double
import FleetSchema.Number.Numeral
import FleetSchema.Path
import FleetSchema.Pattern
import FleetSchema.Pattern.Attempt
import FleetSchema.Pattern.CharacterName
import FleetSchema.Pattern.CharacterName.Aliases
import FleetSchema.Pattern.CharacterName.Alphabets
import FleetSchema.Pattern.CharacterName.FurtherAlphabets
import FleetSchema.Pattern.CharacterName.Logographs
import FleetSchema.Pattern.CharacterName.OldScripts
import FleetSchema.Pattern.CharacterName.Row
import FleetSchema.Pattern.CharacterName.Signs
import FleetSchema.Pattern.CharacterName.Symbols
import FleetSchema.Pattern.Code
import FleetSchema.Pattern.Folding
import FleetSchema.Pattern.Interpreter
import FleetSchema.Pattern.Matcher
import FleetSchema.Pattern.Parser
import FleetSchema.Pattern.Reader
import FleetSchema.Pattern.Syntax
import FleetSchema.Picker
import FleetSchema.Prompt
import FleetSchema.Query
import FleetSchema.Registry
import FleetSchema.Rollout
import FleetSchema.Rollout.Pool
import FleetSchema.Schema
import FleetSchema.Session
import FleetSchema.Settings
import FleetSchema.Storage
import FleetSchema.Targets
import FleetSchema.Text.Blank
import FleetSchema.Text.Digit
import FleetSchema.Text.LetterCase
import FleetSchema.Text.Line
import FleetSchema.Text.Printable
import FleetSchema.Text.Quoted
import FleetSchema.Text.Ranges
import FleetSchema.Text.Utf8
import FleetSchema.Text.Word
import FleetSchema.Unique
import FleetSchema.Value
import FleetSchema.Web
import FleetSchema.Yaml
import FleetSchema.Yaml.Page
import FleetSchema.Yaml.Plain
import FleetSchema.Yaml.Scalar
import FleetSchema.Proofs.CommandLine.Asking
import FleetSchema.Proofs.CommandLine.Connecting
import FleetSchema.Proofs.CommandLine.Consent
import FleetSchema.Proofs.CommandLine.Course
import FleetSchema.Proofs.CommandLine.Reading
import FleetSchema.Proofs.CommandLine.Stages
import FleetSchema.Proofs.CommandLine.Targeting
import FleetSchema.Proofs.Files.Growth
import FleetSchema.Proofs.Files.NormalPath
import FleetSchema.Proofs.Files.Written
import FleetSchema.Proofs.Job.Document
import FleetSchema.Proofs.Rollout.Bounds
import FleetSchema.Proofs.Rollout.Filing
import FleetSchema.Proofs.Rollout.Interleaving
import FleetSchema.Proofs.Rollout.JobFiles
import FleetSchema.Proofs.Rollout.Outcome
import FleetSchema.Proofs.Rollout.PoolRun
import FleetSchema.Proofs.Rollout.Preview
import FleetSchema.Proofs.Session.Frame
import FleetSchema.Proofs.Session.Traces
import FleetSchema.Proofs.Targets.Pairs
import FleetSchema.Proofs.Text.Codec
import FleetSchema.Proofs.CommandLine.Applied
import FleetSchema.Proofs.Catalogue.Listing
import FleetSchema.Proofs.Targets.Precedence
import FleetSchema.Proofs.Targets.AllOrNothing
import FleetSchema.Proofs.CommandLine.Resolving
import FleetSchema.Proofs.CommandLine.ExitCode
import FleetSchema.Proofs.CommandLine.Posing
import FleetSchema.Proofs.CommandLine.Ledger
import FleetSchema.Proofs.Registry.Walk
import FleetSchema.Proofs.Registry.Pagination
import FleetSchema.Proofs.Registry.Malformed
import FleetSchema.Proofs.Files.Calls
import FleetSchema.Proofs.Files.Scripts
import FleetSchema.Proofs.Session.Alike
import FleetSchema.Proofs.Rollout.Secret
import FleetSchema.Proofs.Registry.Namespace
import FleetSchema.Proofs.Targets.Selections
import FleetSchema.Proofs.Pattern.Reading
import FleetSchema.Proofs.Pattern.Refusals
import FleetSchema.Proofs.Console.Markup
import FleetSchema.Proofs.CommandLine.Refusing
import FleetSchema.Proofs.CommandLine.Unreadable
import FleetSchema.Proofs.Lookup.Answers
import FleetSchema.Proofs.Management.Iterating
import FleetSchema.Proofs.Management.Listing
import FleetSchema.Proofs.Cluster.Cache
import FleetSchema.Proofs.Session.History
import FleetSchema.Proofs.Cluster.NormalForm
import FleetSchema.Proofs.CommandLine.Closing
import FleetSchema.Proofs.Execution.Sequence
import FleetSchema.Proofs.Files.Vacant
import FleetSchema.Proofs.Job.HostLabel
import FleetSchema.Proofs.Registry.Circles
import FleetSchema.Proofs.Targets.Picking
import FleetSchema.Proofs.Targets.FilterFields
import FleetSchema.Proofs.Number.DigitParts
import FleetSchema.Proofs.Text.Trimming
import FleetSchema.Proofs.Number.Integers
import FleetSchema.Proofs.Number.Decimals
import FleetSchema.Proofs.Settings.Loading
import FleetSchema.Proofs.Job.Search
import FleetSchema.Proofs.Text.Lines
import FleetSchema.Proofs.Rollout.Verdict
