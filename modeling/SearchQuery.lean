import SearchQuery.Builder
import SearchQuery.Check
import SearchQuery.CommandLine.Arguments
import SearchQuery.CommandLine.Options
import SearchQuery.CommandLine.Run
import SearchQuery.Condition
import SearchQuery.Condition.Compile
import SearchQuery.Condition.Filter
import SearchQuery.Condition.Parse
import SearchQuery.Connection
import SearchQuery.Decimal.Binary
import SearchQuery.Decimal.Places
import SearchQuery.Decimal.Read
import SearchQuery.Decimal.Shortest
import SearchQuery.Engine
import SearchQuery.Engine.OpenSearch
import SearchQuery.Engine.Request
import SearchQuery.Engine.Results
import SearchQuery.Engine.Shelf
import SearchQuery.Engine.Solr
import SearchQuery.Engine.World
import SearchQuery.Entries
import SearchQuery.Fault
import SearchQuery.Json.Reader
import SearchQuery.Json.Writer
import SearchQuery.Log.Clock
import SearchQuery.Log.Event
import SearchQuery.Log.Line
import SearchQuery.Log.Template
import SearchQuery.Log.Threshold
import SearchQuery.Main
import SearchQuery.Moment
import SearchQuery.Ordering
import SearchQuery.Page
import SearchQuery.Prepare
import SearchQuery.Proofs.Balance
import SearchQuery.Proofs.BothCommands
import SearchQuery.Proofs.BuilderRuns
import SearchQuery.Proofs.CheckedRequests
import SearchQuery.Proofs.CleanConditions
import SearchQuery.Proofs.ClientLedger
import SearchQuery.Proofs.ClientLife
import SearchQuery.Proofs.ClosedGroups
import SearchQuery.Proofs.CommandEndings
import SearchQuery.Proofs.CommandSteps
import SearchQuery.Proofs.ConditionTrees
import SearchQuery.Proofs.ConnectionLife
import SearchQuery.Proofs.CountCalls
import SearchQuery.Proofs.Exchanges
import SearchQuery.Proofs.FailedRequests
import SearchQuery.Proofs.FieldModes
import SearchQuery.Proofs.FilteredConditions
import SearchQuery.Proofs.Findings
import SearchQuery.Proofs.FreshRequests
import SearchQuery.Proofs.HealthChecks
import SearchQuery.Proofs.JsonParts
import SearchQuery.Proofs.JsonTexts
import SearchQuery.Proofs.KeyedFindings
import SearchQuery.Proofs.LoggedRecords
import SearchQuery.Proofs.MalformedNegations
import SearchQuery.Proofs.Meanings
import SearchQuery.Proofs.OpenClients
import SearchQuery.Proofs.OperandTexts
import SearchQuery.Proofs.OrderTexts
import SearchQuery.Proofs.Orders
import SearchQuery.Proofs.OrdinaryFaults
import SearchQuery.Proofs.Overlays
import SearchQuery.Proofs.OwnVariables
import SearchQuery.Proofs.PageValues
import SearchQuery.Proofs.PageWindows
import SearchQuery.Proofs.Precedence
import SearchQuery.Proofs.Preparations
import SearchQuery.Proofs.QuietSteps
import SearchQuery.Proofs.RawForms
import SearchQuery.Proofs.Readings
import SearchQuery.Proofs.RegistryRounds
import SearchQuery.Proofs.RegistryRuns
import SearchQuery.Proofs.RegistrySteps
import SearchQuery.Proofs.SameSearch
import SearchQuery.Proofs.SearchCommand
import SearchQuery.Proofs.SessionLife
import SearchQuery.Proofs.SessionRuns
import SearchQuery.Proofs.SmallLetters
import SearchQuery.Proofs.SortCalls
import SearchQuery.Proofs.SortTexts
import SearchQuery.Proofs.SoundReadings
import SearchQuery.Proofs.SoundSources
import SearchQuery.Proofs.StoredDocuments
import SearchQuery.Proofs.UnseenFiltering
import SearchQuery.Proofs.ValueKeys
import SearchQuery.Record
import SearchQuery.Record.Samples
import SearchQuery.Registry
import SearchQuery.Session
import SearchQuery.Settings
import SearchQuery.Settings.EnvFile
import SearchQuery.Settings.Load
import SearchQuery.Settings.Sources
import SearchQuery.Settings.Variables
import SearchQuery.Spec
import SearchQuery.Surroundings
import SearchQuery.Text.Base64
import SearchQuery.Text.Blank
import SearchQuery.Text.Case
import SearchQuery.Text.CaseTable
import SearchQuery.Text.Digit
import SearchQuery.Text.Encoding
import SearchQuery.Text.Half
import SearchQuery.Text.HiddenTable
import SearchQuery.Text.LetterTable
import SearchQuery.Text.Quoted
import SearchQuery.Text.Split
import SearchQuery.Text.Utf8
import SearchQuery.Value
import SearchQuery.Value.Convert
import SearchQuery.Value.Equality
import SearchQuery.Value.Text
import SearchQuery.Yaml.Build
import SearchQuery.Yaml.Cursor
import SearchQuery.Yaml.Labels
import SearchQuery.Yaml.Problem
import SearchQuery.Yaml.Reader
import SearchQuery.Yaml.Scalar
import SearchQuery.Yaml.Texts
import SearchQuery.Yaml.Tree
import SearchQuery.Yaml.Word
import SearchQuery.Yaml.Words
