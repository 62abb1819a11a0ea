import MediaCatalog.Backend.Basic
import MediaCatalog.Backend.Registry
import MediaCatalog.Backend.Release
import MediaCatalog.Command.Arguments
import MediaCatalog.Command.Help
import MediaCatalog.Command.Run
import MediaCatalog.Config.Basic
import MediaCatalog.Config.Environment
import MediaCatalog.Config.Load
import MediaCatalog.Dict
import MediaCatalog.Digest.Blake3
import MediaCatalog.Digest.ContentId
import MediaCatalog.Files.Metadata
import MediaCatalog.Files.Path
import MediaCatalog.Files.Positioned
import MediaCatalog.Files.Tree
import MediaCatalog.Glob.Basic
import MediaCatalog.Glob.Rules
import MediaCatalog.Glob.Token
import MediaCatalog.Json
import MediaCatalog.Main
import MediaCatalog.Moment
import MediaCatalog.Namespace.Basic
import MediaCatalog.Namespace.Handles
import MediaCatalog.Namespace.Inode
import MediaCatalog.Namespace.Resolution
import MediaCatalog.Number.Binary64
import MediaCatalog.Number.Decimal
import MediaCatalog.Number.Shortest
import MediaCatalog.NumberMap
import MediaCatalog.Proofs.Backend.Blank
import MediaCatalog.Proofs.Backend.Naming
import MediaCatalog.Proofs.Backend.Registry
import MediaCatalog.Proofs.Backend.Release
import MediaCatalog.Proofs.Config.Found
import MediaCatalog.Proofs.Config.Mounts
import MediaCatalog.Proofs.Config.Put
import MediaCatalog.Proofs.Config.Reading
import MediaCatalog.Proofs.Config.Set
import MediaCatalog.Proofs.Digest.ContentId
import MediaCatalog.Proofs.Digest.Delivery
import MediaCatalog.Proofs.Files.NameOrder
import MediaCatalog.Proofs.Files.Walk
import MediaCatalog.Proofs.Files.Write
import MediaCatalog.Proofs.Moment
import MediaCatalog.Proofs.Namespace.Ancestors
import MediaCatalog.Proofs.Namespace.DefaultMounts
import MediaCatalog.Proofs.Namespace.Handles
import MediaCatalog.Proofs.Namespace.Inode
import MediaCatalog.Proofs.Namespace.InodePaths
import MediaCatalog.Proofs.Namespace.Listing
import MediaCatalog.Proofs.Namespace.Names
import MediaCatalog.Proofs.Namespace.Pattern
import MediaCatalog.Proofs.Namespace.Reading
import MediaCatalog.Proofs.Namespace.Registration
import MediaCatalog.Proofs.Namespace.ReleaseLevels
import MediaCatalog.Proofs.Namespace.Resolution
import MediaCatalog.Proofs.Namespace.Spelling
import MediaCatalog.Proofs.Namespace.Strictness
import MediaCatalog.Proofs.Number.Decimal
import MediaCatalog.Proofs.Number.Shortest
import MediaCatalog.Proofs.Query.Arrangement
import MediaCatalog.Proofs.Query.Clauses
import MediaCatalog.Proofs.Query.Coverage
import MediaCatalog.Proofs.Query.Extent
import MediaCatalog.Proofs.Query.Grammar
import MediaCatalog.Proofs.Query.Grouping
import MediaCatalog.Proofs.Query.Written
import MediaCatalog.Proofs.Record.Key
import MediaCatalog.Proofs.Record.LabelTemplate
import MediaCatalog.Proofs.Scan.Alike
import MediaCatalog.Proofs.Scan.Atomicity
import MediaCatalog.Proofs.Scan.Cache
import MediaCatalog.Proofs.Scan.Completion
import MediaCatalog.Proofs.Scan.CoreFields
import MediaCatalog.Proofs.Scan.DryRun
import MediaCatalog.Proofs.Scan.Enrichment
import MediaCatalog.Proofs.Scan.Identity
import MediaCatalog.Proofs.Scan.Independence
import MediaCatalog.Proofs.Scan.Lifecycle
import MediaCatalog.Proofs.Scan.Order
import MediaCatalog.Proofs.Scan.Releases
import MediaCatalog.Proofs.Scan.Runs
import MediaCatalog.Proofs.Scan.SetNames
import MediaCatalog.Proofs.Scan.Sets
import MediaCatalog.Proofs.Scan.Turns
import MediaCatalog.Proofs.Scan.Walk
import MediaCatalog.Proofs.Schema.Lookup
import MediaCatalog.Proofs.Schema.QueryTemplate
import MediaCatalog.Proofs.Schema.Quoting
import MediaCatalog.Proofs.Schema.StrayText
import MediaCatalog.Proofs.Schema.Substitution
import MediaCatalog.Proofs.Schema.Written
import MediaCatalog.Proofs.Store.Ledger
import MediaCatalog.Proofs.Store.Narrowing
import MediaCatalog.Proofs.Store.Search
import MediaCatalog.Proofs.Store.Table
import MediaCatalog.Proofs.Text.Ends
import MediaCatalog.Proofs.Text.Identifier
import MediaCatalog.Proofs.Text.Lossy
import MediaCatalog.Proofs.Text.Reader
import MediaCatalog.Proofs.Text.Replacement
import MediaCatalog.Proofs.Text.Segments
import MediaCatalog.Proofs.Text.Utf8
import MediaCatalog.Proofs.Toml.Document
import MediaCatalog.Proofs.Toml.Key
import MediaCatalog.Proofs.Toml.Quoted
import MediaCatalog.Proofs.Toml.Scalar
import MediaCatalog.Proofs.Toml.Statement
import MediaCatalog.Proofs.Toml.Table
import MediaCatalog.Proofs.Toml.WellFormed
import MediaCatalog.Proofs.Toml.Written
import MediaCatalog.Proofs.Value
import MediaCatalog.Query.Condition
import MediaCatalog.Query.Parser
import MediaCatalog.Query.Selection
import MediaCatalog.Record.Entry
import MediaCatalog.Record.Key
import MediaCatalog.Record.LabelTemplate
import MediaCatalog.Regex.Basic
import MediaCatalog.Regex.Meaning
import MediaCatalog.Regex.Parser
import MediaCatalog.Regex.Pattern
import MediaCatalog.Regex.Size
import MediaCatalog.Regex.Tree
import MediaCatalog.Scan.File
import MediaCatalog.Scan.Record
import MediaCatalog.Scan.Walk
import MediaCatalog.Schema.Attribute
import MediaCatalog.Schema.Basic
import MediaCatalog.Schema.QueryTemplate
import MediaCatalog.Store.Basic
import MediaCatalog.Store.Database
import MediaCatalog.Store.Narrowing
import MediaCatalog.Store.Table
import MediaCatalog.Text.Blank
import MediaCatalog.Text.Hex
import MediaCatalog.Text.Identifier
import MediaCatalog.Text.Reader
import MediaCatalog.Text.Segments
import MediaCatalog.Text.Utf8
import MediaCatalog.Toml.Document
import MediaCatalog.Toml.Quoted
import MediaCatalog.Toml.Scalar
import MediaCatalog.Toml.Statement
import MediaCatalog.Toml.Table
import MediaCatalog.Unicode.CaseVariants
import MediaCatalog.Unicode.CategoryTable
import MediaCatalog.Unicode.CharSet
import MediaCatalog.Unicode.Property
import MediaCatalog.Unicode.PropertyTable
import MediaCatalog.Unicode.ScriptExtensionTable
import MediaCatalog.Unicode.ScriptTable
import MediaCatalog.Unicode.Word
import MediaCatalog.Value
import MediaCatalog.Yaml.Cursor
import MediaCatalog.Yaml.Document
import MediaCatalog.Yaml.Node
import MediaCatalog.Yaml.Scalar
import MediaCatalog.Yaml.Token
