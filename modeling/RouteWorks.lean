import RouteWorks.Command.Arguments
import RouteWorks.Command.Execute
import RouteWorks.Command.Help
import RouteWorks.Command.Line
import RouteWorks.Command.Survey
import RouteWorks.Develop.Package
import RouteWorks.Develop.Server
import RouteWorks.Develop.Watch
import RouteWorks.Failure
import RouteWorks.Fault
import RouteWorks.Field.Basic
import RouteWorks.Field.Declaration
import RouteWorks.Field.Rules
import RouteWorks.FilePath
import RouteWorks.FileSystem.Basic
import RouteWorks.Format.Json.Basic
import RouteWorks.Format.Json.Reader
import RouteWorks.Format.Json.Source
import RouteWorks.Format.Json.Token
import RouteWorks.Format.Record
import RouteWorks.Format.Toml.Assembly
import RouteWorks.Format.Toml.Basic
import RouteWorks.Format.Toml.Quote
import RouteWorks.Format.Toml.Reader
import RouteWorks.Format.Yaml.Basic
import RouteWorks.Format.Yaml.Cursor
import RouteWorks.Format.Yaml.Reader
import RouteWorks.Format.Yaml.Scalar
import RouteWorks.Format.Yaml.Token
import RouteWorks.Generate.Plan
import RouteWorks.Generate.Scaffold
import RouteWorks.Generate.Template
import RouteWorks.Generate.Write
import RouteWorks.Handler.Bind
import RouteWorks.Handler.Demo
import RouteWorks.Handler.Serve
import RouteWorks.Main
import RouteWorks.Manifest.Basic
import RouteWorks.Manifest.Build
import RouteWorks.Manifest.Load
import RouteWorks.Manifest.Parse
import RouteWorks.Manifest.Read
import RouteWorks.Name
import RouteWorks.Number.Binary
import RouteWorks.Number.Literal
import RouteWorks.Number.Shortest
import RouteWorks.Parameter.Rules
import RouteWorks.Parameter.Span
import RouteWorks.Parameter.Value
import RouteWorks.Pattern.Basic
import RouteWorks.Pattern.CharClass
import RouteWorks.Pattern.Reader
import RouteWorks.Program.Basic
import RouteWorks.Program.Shell
import RouteWorks.Project
import RouteWorks.Registry
import RouteWorks.Request.Basic
import RouteWorks.Request.Charset
import RouteWorks.Request.Context
import RouteWorks.Request.MediaType
import RouteWorks.Request.Multipart
import RouteWorks.Request.Pairs
import RouteWorks.Request.RoutePattern
import RouteWorks.Route.Chain
import RouteWorks.Route.Path
import RouteWorks.Route.Tree
import RouteWorks.Router
import RouteWorks.Settings.Basic
import RouteWorks.Settings.Filter
import RouteWorks.Settings.Load
import RouteWorks.Source.Location
import RouteWorks.Source.Modules
import RouteWorks.Source.Reference
import RouteWorks.Spec.Basic
import RouteWorks.Spec.Method
import RouteWorks.Text.Blank
import RouteWorks.Text.Case
import RouteWorks.Text.Category
import RouteWorks.Text.Hex
import RouteWorks.Text.Html
import RouteWorks.Text.Letter
import RouteWorks.Text.Octets
import RouteWorks.Text.Ordered
import RouteWorks.Text.Quoted
import RouteWorks.Text.Runs
import RouteWorks.Text.Script
import RouteWorks.Text.Split
import RouteWorks.Text.Table.CaseRuns
import RouteWorks.Text.Table.CategoryRuns
import RouteWorks.Text.Table.PropertyRuns
import RouteWorks.Text.Table.ScriptRuns
import RouteWorks.Text.Utf8
import RouteWorks.Upload.Basic
import RouteWorks.Proofs.Fallible
import RouteWorks.Proofs.Route.Path
import RouteWorks.Proofs.Route.Represents
import RouteWorks.Proofs.Route.Conflict
import RouteWorks.Proofs.Chain.Reading
import RouteWorks.Proofs.Route.Trie
import RouteWorks.Proofs.Chain.Written
import RouteWorks.Proofs.Chain.Running
import RouteWorks.Proofs.Chain.Emission
import RouteWorks.Proofs.Chain.Registered
import RouteWorks.Proofs.Chain.Wrapping
import RouteWorks.Proofs.Text.Blank
import RouteWorks.Proofs.Text.Joined
import RouteWorks.Proofs.Text.Ordered
import RouteWorks.Proofs.Source.Location
import RouteWorks.Proofs.FileSystem.Walk
import RouteWorks.Proofs.Upload.Name
import RouteWorks.Proofs.Source.Modules
import RouteWorks.Proofs.Source.Reference
import RouteWorks.Proofs.Chain.Items
import RouteWorks.Proofs.Chain.Imports
import RouteWorks.Proofs.Project.Registration
import RouteWorks.Proofs.Project.Planning
import RouteWorks.Proofs.Project.Files
import RouteWorks.Proofs.Project.Placement
import RouteWorks.Proofs.Project.Sharing
import RouteWorks.Proofs.Text.Category
import RouteWorks.Proofs.Number.Reading
import RouteWorks.Proofs.Field.Range
import RouteWorks.Proofs.Project.Requests
import RouteWorks.Proofs.Manifest.Build
import RouteWorks.Proofs.FileSystem.Change
import RouteWorks.Proofs.Upload.Saving
import RouteWorks.Proofs.Number.Integer
import RouteWorks.Proofs.Parameter.Binding
import RouteWorks.Proofs.Generate.Writing
import RouteWorks.Proofs.Generate.Failing
import RouteWorks.Proofs.Develop.Running
import RouteWorks.Proofs.Text.Lines
import RouteWorks.Proofs.Chain.Lines
import RouteWorks.Proofs.Chain.Scope
import RouteWorks.Proofs.Project.Reaching
import RouteWorks.Proofs.Source.Insertions
import RouteWorks.Proofs.Handler.Wording
import RouteWorks.Proofs.Chain.Resolving
import RouteWorks.Proofs.Chain.Layers
import RouteWorks.Proofs.Text.Ascii
import RouteWorks.Proofs.Name.Camel
import RouteWorks.Proofs.Name.Snake
import RouteWorks.Proofs.Name.Escape
import RouteWorks.Proofs.Field.RangeForm
import RouteWorks.Proofs.Field.Checking
import RouteWorks.Proofs.Field.Companion
import RouteWorks.Proofs.Name.Legal
import RouteWorks.Proofs.Generate.Structure
import RouteWorks.Proofs.Project.Naming
import RouteWorks.Proofs.Parameter.Ranged
import RouteWorks.Proofs.Parameter.IntegerRange
import RouteWorks.Proofs.Number.Rounding
import RouteWorks.Proofs.Number.Conversion
import RouteWorks.Proofs.Text.Literal
import RouteWorks.Proofs.Field.Attribute
import RouteWorks.Proofs.Generate.Keys
import RouteWorks.Proofs.Parameter.Nested
import RouteWorks.Proofs.Request.Cookie
import RouteWorks.Proofs.Source.Folding
import RouteWorks.Proofs.Source.ModulePath
import RouteWorks.Proofs.Spec.Method
import RouteWorks.Proofs.Route.Normal
