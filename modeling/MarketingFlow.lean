import MarketingFlow.Build.Builder
import MarketingFlow.Build.Document
import MarketingFlow.Build.Mode
import MarketingFlow.Build.Result
import MarketingFlow.CommandLine.Arguments
import MarketingFlow.CommandLine.Line
import MarketingFlow.CommandLine.Run
import MarketingFlow.Configuration.Basic
import MarketingFlow.Configuration.Bindings
import MarketingFlow.Configuration.Loading
import MarketingFlow.Decimal.Binary
import MarketingFlow.Decimal.Layout
import MarketingFlow.Decimal.Numeral
import MarketingFlow.Decimal.Shortest
import MarketingFlow.Domain.Bidirectional
import MarketingFlow.Domain.Context
import MarketingFlow.Domain.DirectionTable
import MarketingFlow.Domain.Flaw
import MarketingFlow.Domain.JoiningTable
import MarketingFlow.Domain.Label
import MarketingFlow.Domain.LetterTable
import MarketingFlow.Domain.Name
import MarketingFlow.Domain.Punycode
import MarketingFlow.Editor.Candidates
import MarketingFlow.Editor.Operations
import MarketingFlow.Editor.Page
import MarketingFlow.Editor.Session
import MarketingFlow.Email.Images
import MarketingFlow.Email.Page
import MarketingFlow.Failure
import MarketingFlow.Files.Found
import MarketingFlow.Files.Path
import MarketingFlow.Files.Tree
import MarketingFlow.Flow.Action
import MarketingFlow.Flow.Basic
import MarketingFlow.Flow.Filter
import MarketingFlow.Flow.Settings
import MarketingFlow.Flow.Traversal
import MarketingFlow.Flow.Trigger
import MarketingFlow.Flow.Validation
import MarketingFlow.Http.Content
import MarketingFlow.Http.Escape
import MarketingFlow.Http.Header
import MarketingFlow.Http.Host
import MarketingFlow.Http.Message
import MarketingFlow.Http.Query
import MarketingFlow.Http.Url
import MarketingFlow.Interaction.Program
import MarketingFlow.Interaction.World
import MarketingFlow.Journal
import MarketingFlow.Json.Basic
import MarketingFlow.Json.Bytes
import MarketingFlow.Json.Equality
import MarketingFlow.Json.Number
import MarketingFlow.Json.Printer
import MarketingFlow.Json.Reader
import MarketingFlow.Json.Text
import MarketingFlow.Main
import MarketingFlow.Plan.Execution
import MarketingFlow.Plan.OfFlow
import MarketingFlow.Plan.Step
import MarketingFlow.Proofs.Build.Agreement
import MarketingFlow.Proofs.Build.Browser
import MarketingFlow.Proofs.Build.FollowUp
import MarketingFlow.Proofs.Build.OneCreation
import MarketingFlow.Proofs.Build.Reentry
import MarketingFlow.Proofs.Build.Routes
import MarketingFlow.Proofs.Email.Escaping
import MarketingFlow.Proofs.Flow.Confounding
import MarketingFlow.Proofs.Flow.DepthFirst
import MarketingFlow.Proofs.Flow.FilterEntries
import MarketingFlow.Proofs.Flow.Reachability
import MarketingFlow.Proofs.Flow.RoundTrip
import MarketingFlow.Proofs.Flow.SecondReading
import MarketingFlow.Proofs.Flow.Unreachable
import MarketingFlow.Proofs.Flow.ValidGraph
import MarketingFlow.Proofs.Flow.Validity
import MarketingFlow.Proofs.Flow.Walk
import MarketingFlow.Proofs.Http.Ascii
import MarketingFlow.Proofs.Http.Body
import MarketingFlow.Proofs.Http.Kind
import MarketingFlow.Proofs.Http.Unforeseen
import MarketingFlow.Proofs.Interaction.Calls
import MarketingFlow.Proofs.Interaction.Endings
import MarketingFlow.Proofs.Interaction.Exchanges
import MarketingFlow.Proofs.Interaction.Habits
import MarketingFlow.Proofs.Interaction.Mirrors
import MarketingFlow.Proofs.Interaction.Monitor
import MarketingFlow.Proofs.Interaction.Persistence
import MarketingFlow.Proofs.Interaction.Reaches
import MarketingFlow.Proofs.Interaction.Replies
import MarketingFlow.Proofs.Interaction.Retrying
import MarketingFlow.Proofs.Interaction.States
import MarketingFlow.Proofs.Interaction.Tallies
import MarketingFlow.Proofs.Interaction.Tasks
import MarketingFlow.Proofs.Interaction.Traces
import MarketingFlow.Proofs.Json.Depth
import MarketingFlow.Proofs.Json.Fields
import MarketingFlow.Proofs.Json.Literals
import MarketingFlow.Proofs.Json.Rearrangement
import MarketingFlow.Proofs.Outcome
import MarketingFlow.Proofs.Plan.Account
import MarketingFlow.Proofs.Plan.Carrying
import MarketingFlow.Proofs.Plan.Course
import MarketingFlow.Proofs.Plan.CreatedActions
import MarketingFlow.Proofs.Plan.Handling
import MarketingFlow.Proofs.Plan.Outcome
import MarketingFlow.Proofs.Service.Accidents
import MarketingFlow.Proofs.Service.Answers
import MarketingFlow.Proofs.Service.Attachment
import MarketingFlow.Proofs.Service.Attempts
import MarketingFlow.Proofs.Service.Calls
import MarketingFlow.Proofs.Service.Capabilities
import MarketingFlow.Proofs.Service.Classification
import MarketingFlow.Proofs.Service.ClosedPayload
import MarketingFlow.Proofs.Service.Compilation
import MarketingFlow.Proofs.Service.CompleteTable
import MarketingFlow.Proofs.Service.ContentPass
import MarketingFlow.Proofs.Service.Delivery
import MarketingFlow.Proofs.Service.Directories
import MarketingFlow.Proofs.Service.Documents
import MarketingFlow.Proofs.Service.EmailContent
import MarketingFlow.Proofs.Service.Exchange
import MarketingFlow.Proofs.Service.FailedLoads
import MarketingFlow.Proofs.Service.FirstPages
import MarketingFlow.Proofs.Service.Fitting
import MarketingFlow.Proofs.Service.HeededRefusals
import MarketingFlow.Proofs.Service.ImageCounts
import MarketingFlow.Proofs.Service.ImageHistory
import MarketingFlow.Proofs.Service.ImageSources
import MarketingFlow.Proofs.Service.ImageUploads
import MarketingFlow.Proofs.Service.KeptFlow
import MarketingFlow.Proofs.Service.Listings
import MarketingFlow.Proofs.Service.Lookups
import MarketingFlow.Proofs.Service.OneCreation
import MarketingFlow.Proofs.Service.Pages
import MarketingFlow.Proofs.Service.Parts
import MarketingFlow.Proofs.Service.Refusals
import MarketingFlow.Proofs.Service.Requests
import MarketingFlow.Proofs.Service.Results
import MarketingFlow.Proofs.Service.Returns
import MarketingFlow.Proofs.Service.Sending
import MarketingFlow.Proofs.Service.SharedLoad
import MarketingFlow.Proofs.Service.SplitConditions
import MarketingFlow.Proofs.Service.Stages
import MarketingFlow.Proofs.Service.TemplateSearch
import MarketingFlow.Proofs.Service.TriggerNames
import MarketingFlow.Proofs.Service.Verification
import MarketingFlow.Proofs.Text.Order
import MarketingFlow.Retry
import MarketingFlow.Service.Client
import MarketingFlow.Service.ContentPass
import MarketingFlow.Service.Creation
import MarketingFlow.Service.Creator
import MarketingFlow.Service.Directory
import MarketingFlow.Service.Names
import MarketingFlow.Service.Payload
import MarketingFlow.Service.SideBySide
import MarketingFlow.Service.Verification
import MarketingFlow.Text.Base64
import MarketingFlow.Text.Blank
import MarketingFlow.Text.Case
import MarketingFlow.Text.CaseTables
import MarketingFlow.Text.CodePoint
import MarketingFlow.Text.Composition
import MarketingFlow.Text.CompositionTables
import MarketingFlow.Text.Digit
import MarketingFlow.Text.Encoding
import MarketingFlow.Text.Flaw
import MarketingFlow.Text.PrintableTable
import MarketingFlow.Text.Quoted
import MarketingFlow.Text.Search
import MarketingFlow.Text.Utf8
import MarketingFlow.Text.Wide
