import FeatureSpec.Backend.Address
import FeatureSpec.Backend.Delivery
import FeatureSpec.Backend.Endpoint
import FeatureSpec.Backend.Escape
import FeatureSpec.Backend.Url
import FeatureSpec.Command.Basic
import FeatureSpec.Command.Run
import FeatureSpec.Command.Table
import FeatureSpec.Command.Terminal
import FeatureSpec.Command.Words
import FeatureSpec.Compile.Attribute
import FeatureSpec.Compile.Feature
import FeatureSpec.Compile.Violation
import FeatureSpec.Compile.Visit
import FeatureSpec.Config.Basic
import FeatureSpec.Config.Load
import FeatureSpec.Digest.Md5
import FeatureSpec.Document
import FeatureSpec.Entries
import FeatureSpec.Failure
import FeatureSpec.Files.Path
import FeatureSpec.Files.Tree
import FeatureSpec.Gateway.Basic
import FeatureSpec.Gateway.BundleFile
import FeatureSpec.Gateway.Client
import FeatureSpec.Gateway.Operation
import FeatureSpec.Gateway.Run
import FeatureSpec.Gateway.Trace
import FeatureSpec.Host.Basic
import FeatureSpec.Host.Composition
import FeatureSpec.Host.CompositionTable
import FeatureSpec.Host.Context
import FeatureSpec.Host.Direction
import FeatureSpec.Host.Label
import FeatureSpec.Host.LabelTable
import FeatureSpec.Host.Lower
import FeatureSpec.Host.LowerTable
import FeatureSpec.Host.Mark
import FeatureSpec.Host.MarkTable
import FeatureSpec.Host.Numeric
import FeatureSpec.Host.Punycode
import FeatureSpec.Host.ScriptTable
import FeatureSpec.Json.Basic
import FeatureSpec.Json.Display
import FeatureSpec.Json.Octets
import FeatureSpec.Json.Reader
import FeatureSpec.Json.Writable
import FeatureSpec.Json.Writer
import FeatureSpec.Log.Level
import FeatureSpec.Log.Line
import FeatureSpec.Log.Loggers
import FeatureSpec.Log.Output
import FeatureSpec.Log.Record
import FeatureSpec.Log.Template
import FeatureSpec.Log.Timestamp
import FeatureSpec.Logged
import FeatureSpec.Main
import FeatureSpec.MappingTable
import FeatureSpec.Model.Feature
import FeatureSpec.Model.Frontend
import FeatureSpec.Model.Lookup
import FeatureSpec.Model.Mapping
import FeatureSpec.Model.Problem
import FeatureSpec.Model.Query
import FeatureSpec.Model.Reply
import FeatureSpec.Model.Wire
import FeatureSpec.Number.Binary64
import FeatureSpec.Number.Decimal
import FeatureSpec.Number.IntegerText
import FeatureSpec.Number.Literal
import FeatureSpec.Number.Rounded
import FeatureSpec.Number.Shortest
import FeatureSpec.Octets
import FeatureSpec.Payload.Checked
import FeatureSpec.Payload.Codec
import FeatureSpec.Payload.Fields
import FeatureSpec.Placeholder
import FeatureSpec.Resolution
import FeatureSpec.Session
import FeatureSpec.SpecDirectory
import FeatureSpec.Store
import FeatureSpec.Text.Blank
import FeatureSpec.Text.Case
import FeatureSpec.Text.Cluster
import FeatureSpec.Text.Digit
import FeatureSpec.Text.Escape
import FeatureSpec.Text.HiddenTable
import FeatureSpec.Text.Lines
import FeatureSpec.Text.Piece
import FeatureSpec.Text.Quoted
import FeatureSpec.Text.Ranges
import FeatureSpec.Text.Width
import FeatureSpec.Text.WidthTable
import FeatureSpec.Text.Word
import FeatureSpec.Text.WordTable
import FeatureSpec.Text.Wrap
import FeatureSpec.Toml.Basic
import FeatureSpec.Toml.Document
import FeatureSpec.Toml.Moment
import FeatureSpec.Toml.Token
import FeatureSpec.Xml.Character
import FeatureSpec.Xml.Charset
import FeatureSpec.Xml.CharsetTable
import FeatureSpec.Xml.Declaration
import FeatureSpec.Xml.Doctype
import FeatureSpec.Xml.Document
import FeatureSpec.Xml.Entity
import FeatureSpec.Xml.Event
import FeatureSpec.Xml.Mark
import FeatureSpec.Xml.NameTable
import FeatureSpec.Xml.Namespace
import FeatureSpec.Xml.Node
import FeatureSpec.Xml.Reference
import FeatureSpec.Xml.Token
import FeatureSpec.Xml.Tree
import FeatureSpec.Proofs.LoadCourse
import FeatureSpec.Proofs.LoadHistory
import FeatureSpec.Proofs.LiveOperation
import FeatureSpec.Proofs.Strictness
import FeatureSpec.Proofs.Restores
import FeatureSpec.Proofs.RoundTrip
import FeatureSpec.Proofs.OfflineSession
import FeatureSpec.Proofs.Spans
import FeatureSpec.Proofs.Requestable
import FeatureSpec.Proofs.ClientCalls
import FeatureSpec.Proofs.LiveSession
import FeatureSpec.Proofs.FirstOccurrences
import FeatureSpec.Proofs.GrownTrees
import FeatureSpec.Proofs.MappingLookup
import FeatureSpec.Proofs.References
import FeatureSpec.Proofs.ErrorReports
import FeatureSpec.Proofs.Leniency
import FeatureSpec.Proofs.JsonScalars
import FeatureSpec.Proofs.JsonRoundTrip
import FeatureSpec.Proofs.PrintableJson
import FeatureSpec.Proofs.LegibleFeature
import FeatureSpec.Proofs.LegibleReplies
import FeatureSpec.Proofs.IntegerWords
import FeatureSpec.Proofs.FeaturePaths
import FeatureSpec.Proofs.CommandCourse
import FeatureSpec.Proofs.CompileCommand
import FeatureSpec.Proofs.SessionCourse
import FeatureSpec.Proofs.BundleFiles
import FeatureSpec.Proofs.BundleReports
import FeatureSpec.Proofs.Overrides
import FeatureSpec.Proofs.Placeholders
import FeatureSpec.Proofs.PlaceholderMarks
import FeatureSpec.Proofs.QueryTexts
import FeatureSpec.Proofs.Markup
import FeatureSpec.Proofs.UnreadMarkup
import FeatureSpec.Proofs.Spellings
import FeatureSpec.Proofs.IntegerAttributes
import FeatureSpec.Proofs.AddressesBelow
import FeatureSpec.Proofs.DistinctRequests
import FeatureSpec.Proofs.NameInterchange
import FeatureSpec.Proofs.CompileFailures
import FeatureSpec.Proofs.FeatureListing
import FeatureSpec.Proofs.DirectoryChecksums
import FeatureSpec.Proofs.WholeDoubles
import FeatureSpec.Proofs.Settings
import FeatureSpec.Proofs.SettingPrecedence
import FeatureSpec.Proofs.ConfigFailures
import FeatureSpec.Proofs.CannedGateway
import FeatureSpec.Proofs.LegacyActions
import FeatureSpec.Proofs.NearestDoubles
import FeatureSpec.Proofs.DoubleTexts
import FeatureSpec.Proofs.JsonReading
import FeatureSpec.Proofs.ParameterMappings
import FeatureSpec.Proofs.StoreHistory
import FeatureSpec.Proofs.LogFiles
import FeatureSpec.Proofs.LogLines
import FeatureSpec.Proofs.CommandRecords
import FeatureSpec.Proofs.LogDirectories
