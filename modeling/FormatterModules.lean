import FormatterModules.Artifact
import FormatterModules.Artifact.Set
import FormatterModules.Binary64
import FormatterModules.Bytes.Hex
import FormatterModules.Bytes.Sha256
import FormatterModules.Bytes.Utf8
import FormatterModules.Configuration
import FormatterModules.Configuration.Editing
import FormatterModules.Coordinate
import FormatterModules.Coordinate.Template
import FormatterModules.Decimal
import FormatterModules.Engine
import FormatterModules.Engine.ImportOrder
import FormatterModules.Engine.Indent
import FormatterModules.Engine.Table
import FormatterModules.Engine.Whitespace
import FormatterModules.EngineState
import FormatterModules.Environment
import FormatterModules.Failure
import FormatterModules.Fetcher
import FormatterModules.FileTree
import FormatterModules.JavaFormatter
import FormatterModules.Json.Decoding
import FormatterModules.Json.Number
import FormatterModules.Json.Value
import FormatterModules.Loader
import FormatterModules.Loader.Cache
import FormatterModules.Loader.Objects
import FormatterModules.Loader.Threads
import FormatterModules.Manifest
import FormatterModules.Network
import FormatterModules.Network.Status
import FormatterModules.Ordered.Map
import FormatterModules.Ordered.Set
import FormatterModules.Path
import FormatterModules.Preferences
import FormatterModules.Preferences.Files
import FormatterModules.Provisioner
import FormatterModules.Repository
import FormatterModules.Resolution
import FormatterModules.Serialization
import FormatterModules.Settings
import FormatterModules.Step
import FormatterModules.Step.Threads
import FormatterModules.StopFlag
import FormatterModules.SystemError
import FormatterModules.Text.Alphanumeric
import FormatterModules.Text.Blank
import FormatterModules.Text.Lines
import FormatterModules.Text.Number
import FormatterModules.Text.Quoted
import FormatterModules.Text.Ranges
import FormatterModules.Toml.Document
import FormatterModules.Toml.Number
import FormatterModules.Toml.Text
import FormatterModules.Toml.Value
import FormatterModules.Unicode.Direction
import FormatterModules.Unicode.DomainMapping
import FormatterModules.Unicode.Joining
import FormatterModules.Unicode.Mark
import FormatterModules.Unicode.Normalization
import FormatterModules.Unicode.NormalizationTable
import FormatterModules.Unicode.Printable
import FormatterModules.Unicode.Table
import FormatterModules.Url.Authority
import FormatterModules.Url.Basic
import FormatterModules.Url.Domain
import FormatterModules.Url.Error
import FormatterModules.Url.Host
import FormatterModules.Url.Ipv4
import FormatterModules.Url.Ipv6
import FormatterModules.Url.Percent
import FormatterModules.Url.Punycode
import FormatterModules.Url.Reading
import FormatterModules.Url.Reference
import FormatterModules.Url.Segments
import FormatterModules.Url.Separator
import FormatterModules.Version
import FormatterModules.Version.Selection
import FormatterModules.Version.Supported
import FormatterModules.Proofs.Artifact.Locations
import FormatterModules.Proofs.Artifact.Set
import FormatterModules.Proofs.Bytes.Utf8
import FormatterModules.Proofs.Configuration.Choices
import FormatterModules.Proofs.Configuration.Hindrances
import FormatterModules.Proofs.Configuration.History
import FormatterModules.Proofs.Configuration.Interruption
import FormatterModules.Proofs.Configuration.Relocation
import FormatterModules.Proofs.Configuration.Visibility
import FormatterModules.Proofs.Coordinate.Grammar
import FormatterModules.Proofs.Coordinate.Template
import FormatterModules.Proofs.Engine.Room
import FormatterModules.Proofs.Engine.ImportOrder.Again
import FormatterModules.Proofs.Engine.ImportOrder.Names
import FormatterModules.Proofs.Engine.ImportOrder.OtherLines
import FormatterModules.Proofs.Engine.ImportOrder.Rewriting
import FormatterModules.Proofs.Engine.ImportOrder.Ties
import FormatterModules.Proofs.Engine.Indent.Columns
import FormatterModules.Proofs.Engine.Indent.Styles
import FormatterModules.Proofs.Engine.Whitespace
import FormatterModules.Proofs.Failure.Sequence
import FormatterModules.Proofs.Fetcher.Runs
import FormatterModules.Proofs.FileTree.Below
import FormatterModules.Proofs.FileTree.Writing
import FormatterModules.Proofs.Json.Text
import FormatterModules.Proofs.Loader.Copies
import FormatterModules.Proofs.Loader.Declarations
import FormatterModules.Proofs.Loader.Failures
import FormatterModules.Proofs.Loader.Identity
import FormatterModules.Proofs.Loader.Names
import FormatterModules.Proofs.Loader.SingleBuild
import FormatterModules.Proofs.Loader.Undisturbed
import FormatterModules.Proofs.Path.Joining
import FormatterModules.Proofs.Preferences.Merging
import FormatterModules.Proofs.Preferences.Writing
import FormatterModules.Proofs.Repository.Closure
import FormatterModules.Proofs.Repository.Containment
import FormatterModules.Proofs.Repository.Places
import FormatterModules.Proofs.Repository.Provisioning
import FormatterModules.Proofs.Repository.Relocation
import FormatterModules.Proofs.Repository.SharedFiles
import FormatterModules.Proofs.Repository.Traversal
import FormatterModules.Proofs.Repository.Union
import FormatterModules.Proofs.Serialization.RoundTrip
import FormatterModules.Proofs.Settings.Loading
import FormatterModules.Proofs.Step.History
import FormatterModules.Proofs.Step.InPlace
import FormatterModules.Proofs.Step.Interruption
import FormatterModules.Proofs.Step.SingleAttempt
import FormatterModules.Proofs.Text.Decimal
import FormatterModules.Proofs.Text.Fusion
import FormatterModules.Proofs.Text.Pieces
import FormatterModules.Proofs.Version.Grammar
import FormatterModules.Proofs.Version.ListingOrder
import FormatterModules.Proofs.Version.Text
