import PropertyGraph.Agens.Entity
import PropertyGraph.Agens.Session
import PropertyGraph.Bolt.Address
import PropertyGraph.Bolt.Session
import PropertyGraph.Bolt.Value
import PropertyGraph.Config
import PropertyGraph.Config.Codec
import PropertyGraph.Config.Dotenv
import PropertyGraph.Config.Environment
import PropertyGraph.Config.File
import PropertyGraph.Connection
import PropertyGraph.Dict
import PropertyGraph.Element
import PropertyGraph.Element.Codec
import PropertyGraph.Embedded.Graph
import PropertyGraph.Embedded.Loading
import PropertyGraph.Embedded.Session
import PropertyGraph.Embedded.State
import PropertyGraph.Embedded.Tables
import PropertyGraph.Error
import PropertyGraph.Json.Document
import PropertyGraph.Json.Reader
import PropertyGraph.Json.Source
import PropertyGraph.Json.Text
import PropertyGraph.Json.Value
import PropertyGraph.Number.Binary64
import PropertyGraph.Number.Shortest
import PropertyGraph.Proofs.DictLookup
import PropertyGraph.Proofs.EmbeddedGrowth
import PropertyGraph.Proofs.EmbeddedSync
import PropertyGraph.Proofs.GraphSearch
import PropertyGraph.Proofs.KeyLookup
import PropertyGraph.Proofs.NullDropping
import PropertyGraph.Proofs.PropertyMapping
import PropertyGraph.Proofs.RecordListing
import PropertyGraph.Proofs.RelationReading
import PropertyGraph.Proofs.Reopening
import PropertyGraph.Provider
import PropertyGraph.Query.EdgePattern
import PropertyGraph.Query.Fragment
import PropertyGraph.Query.Refusal
import PropertyGraph.Query.Request
import PropertyGraph.Query.Statement
import PropertyGraph.Query.Variable
import PropertyGraph.Query.VertexPattern
import PropertyGraph.Record.Expectation
import PropertyGraph.Record.FieldIndex
import PropertyGraph.Record.FieldType
import PropertyGraph.Record.Mapping
import PropertyGraph.Record.RecordType
import PropertyGraph.Record.Schema
import PropertyGraph.Record.Shape
import PropertyGraph.Registry
import PropertyGraph.Remote
import PropertyGraph.Store
import PropertyGraph.Text.AlphanumericTable
import PropertyGraph.Text.Blank
import PropertyGraph.Text.Case
import PropertyGraph.Text.CaseTable
import PropertyGraph.Text.Digit
import PropertyGraph.Text.Numeral
import PropertyGraph.Text.PrintTable
import PropertyGraph.Text.Quoted
import PropertyGraph.Text.Span
import PropertyGraph.Toml.Document
import PropertyGraph.Toml.Number
import PropertyGraph.Toml.Source
import PropertyGraph.Toml.Table
import PropertyGraph.Toml.Text
import PropertyGraph.Toml.Value
import PropertyGraph.Yaml.Node
import PropertyGraph.Yaml.Scalar
import PropertyGraph.Yaml.Source
import PropertyGraph.Yaml.Tag
import PropertyGraph.Yaml.Text
import PropertyGraph.Yaml.Token
import PropertyGraph.Proofs.DecodingOrder
import PropertyGraph.Proofs.EmbeddedOutcomes
import PropertyGraph.Proofs.ReachableStates
import PropertyGraph.Proofs.FailedWrites
import PropertyGraph.Proofs.RelationRoundTrip
import PropertyGraph.Proofs.PatternVariables
import PropertyGraph.Proofs.Refusals
import PropertyGraph.Proofs.CharacterRuns
import PropertyGraph.Proofs.DecimalText
import PropertyGraph.Proofs.EdgeIdentifiers
import PropertyGraph.Proofs.Rounding
import PropertyGraph.Proofs.ShortestDigits
import PropertyGraph.Proofs.NumeralReading
import PropertyGraph.Proofs.NumberText
import PropertyGraph.Proofs.ValueText
import PropertyGraph.Proofs.GivenProperties
import PropertyGraph.Proofs.ReopeningDepth
import PropertyGraph.Proofs.KeptAnswers
import PropertyGraph.Proofs.MergedElements
import PropertyGraph.Proofs.StoredDirection
import PropertyGraph.Proofs.UnambiguousText
import PropertyGraph.Proofs.FragmentText
import PropertyGraph.Proofs.StatementText
import PropertyGraph.Proofs.ObjectLabels
import PropertyGraph.Proofs.RemoteStoring
import PropertyGraph.Proofs.RecordedCalls
import PropertyGraph.Proofs.FetchModes
import PropertyGraph.Proofs.RecordRoundTrip
import PropertyGraph.Proofs.RepeatedMerges
import PropertyGraph.Proofs.QuotedValues
import PropertyGraph.Proofs.FreshVariables
import PropertyGraph.Proofs.NormalForms
import PropertyGraph.Proofs.PartialUpdate
import PropertyGraph.Proofs.PatternSettings
import PropertyGraph.Proofs.EntityText
import PropertyGraph.Proofs.CompleteEdges
import PropertyGraph.Proofs.EdgeSearch
import PropertyGraph.Proofs.TagChecking
import PropertyGraph.Proofs.LetterCase
import PropertyGraph.Proofs.KeyPrecedence
import PropertyGraph.Proofs.TypedReading
import PropertyGraph.Proofs.DocumentReading
import PropertyGraph.Proofs.JsonForms
import PropertyGraph.Proofs.CheckedCalls
import PropertyGraph.Proofs.FlatClauses
import PropertyGraph.Proofs.TableLoading
import PropertyGraph.Proofs.BoltParameters
import PropertyGraph.Proofs.RegisteredConnectors
