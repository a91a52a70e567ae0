import PageContracts.Browser.Command
import PageContracts.Browser.Management
import PageContracts.Browser.Scripted
import PageContracts.Calendar
import PageContracts.Contract.Ancestry
import PageContracts.Contract.Binding
import PageContracts.Contract.Calling
import PageContracts.Contract.Class
import PageContracts.Contract.ClassBody
import PageContracts.Contract.Definition
import PageContracts.Contract.Instance
import PageContracts.Contract.Model
import PageContracts.Contract.Operation
import PageContracts.Contract.Renaming
import PageContracts.Contract.Signature
import PageContracts.Contract.TypeText
import PageContracts.Driver.Lifecycle
import PageContracts.Driver.Navigation
import PageContracts.Driver.Screenshots
import PageContracts.Driver.Setup
import PageContracts.Driver.Url
import PageContracts.Elements.Finding
import PageContracts.Elements.Surface
import PageContracts.Failure
import PageContracts.Files
import PageContracts.Journal
import PageContracts.Language.Access
import PageContracts.Language.Arguments
import PageContracts.Language.Calls
import PageContracts.Language.Complex
import PageContracts.Language.Evaluation
import PageContracts.Language.Expression
import PageContracts.Language.Functions
import PageContracts.Language.Meaning
import PageContracts.Language.Members
import PageContracts.Language.Memory
import PageContracts.Language.Methods
import PageContracts.Language.NumberMethods
import PageContracts.Language.Operators
import PageContracts.Language.Parser
import PageContracts.Language.RowMethods
import PageContracts.Language.Rows
import PageContracts.Language.SetOrder
import PageContracts.Language.Slice
import PageContracts.Language.TextLayout
import PageContracts.Language.TextMethods
import PageContracts.Language.Token
import PageContracts.Language.Types
import PageContracts.Language.Union
import PageContracts.Locator
import PageContracts.Mishap
import PageContracts.Nesting
import PageContracts.Number.Binary64
import PageContracts.Number.Circle
import PageContracts.Number.Decimal
import PageContracts.Number.Power
import PageContracts.Number.Reading
import PageContracts.Objects.Access
import PageContracts.Objects.Acting
import PageContracts.Objects.Attributes
import PageContracts.Objects.Compilation
import PageContracts.Objects.Contents
import PageContracts.Objects.Creation
import PageContracts.Objects.Factory
import PageContracts.Objects.Invocation
import PageContracts.Objects.Renaming
import PageContracts.Objects.Running
import PageContracts.Plan.CallPlan
import PageContracts.Plan.Registry
import PageContracts.Plan.Rule
import PageContracts.Proofs.Acting
import PageContracts.Proofs.ActingMishaps
import PageContracts.Proofs.Additions
import PageContracts.Proofs.Addresses
import PageContracts.Proofs.Arguments
import PageContracts.Proofs.Bases
import PageContracts.Proofs.Bindings
import PageContracts.Proofs.Caching
import PageContracts.Proofs.Calling
import PageContracts.Proofs.Choosing
import PageContracts.Proofs.Clients
import PageContracts.Proofs.Closings
import PageContracts.Proofs.Configuring
import PageContracts.Proofs.Contexts
import PageContracts.Proofs.Creation
import PageContracts.Proofs.Culprits
import PageContracts.Proofs.Declarations
import PageContracts.Proofs.Departures
import PageContracts.Proofs.Escaping
import PageContracts.Proofs.Exposure
import PageContracts.Proofs.Extension
import PageContracts.Proofs.Fluency
import PageContracts.Proofs.Formatting
import PageContracts.Proofs.Imposters
import PageContracts.Proofs.Inheritance
import PageContracts.Proofs.Inward
import PageContracts.Proofs.Keys
import PageContracts.Proofs.Leaving
import PageContracts.Proofs.Ledger
import PageContracts.Proofs.Lifetimes
import PageContracts.Proofs.Lineages
import PageContracts.Proofs.Loading
import PageContracts.Proofs.Lookups
import PageContracts.Proofs.Mishaps
import PageContracts.Proofs.Numbers
import PageContracts.Proofs.Orderly
import PageContracts.Proofs.Paths
import PageContracts.Proofs.Pauses
import PageContracts.Proofs.Pictures
import PageContracts.Proofs.Placeholders
import PageContracts.Proofs.Places
import PageContracts.Proofs.Prefixes
import PageContracts.Proofs.QueryStrings
import PageContracts.Proofs.Readings
import PageContracts.Proofs.Refusals
import PageContracts.Proofs.Reloading
import PageContracts.Proofs.Renamings
import PageContracts.Proofs.Resolution
import PageContracts.Proofs.Retrying
import PageContracts.Proofs.Runs
import PageContracts.Proofs.Searching
import PageContracts.Proofs.Secrecy
import PageContracts.Proofs.Sections
import PageContracts.Proofs.Selection
import PageContracts.Proofs.Selectors
import PageContracts.Proofs.Settled
import PageContracts.Proofs.Sinks
import PageContracts.Proofs.Sources
import PageContracts.Proofs.Stamps
import PageContracts.Proofs.Starting
import PageContracts.Proofs.Substitutions
import PageContracts.Proofs.Touching
import PageContracts.Proofs.Twins
import PageContracts.Proofs.Unaware
import PageContracts.Proofs.Untyped
import PageContracts.Proofs.UrlParts
import PageContracts.Proofs.Using
import PageContracts.Proofs.Waiting
import PageContracts.Proofs.Workplace
import PageContracts.QueryBuilding
import PageContracts.QueryParams
import PageContracts.Retry.Budget
import PageContracts.Retry.Loop
import PageContracts.ScopeStack
import PageContracts.Settings.Document
import PageContracts.Settings.Document.Builder
import PageContracts.Settings.Document.ByteText
import PageContracts.Settings.Document.Content
import PageContracts.Settings.Document.Cursor
import PageContracts.Settings.Document.Defect
import PageContracts.Settings.Document.MomentText
import PageContracts.Settings.Document.Node
import PageContracts.Settings.Document.NodeTag
import PageContracts.Settings.Document.Scalar
import PageContracts.Settings.Document.ScalarValue
import PageContracts.Settings.Document.Token
import PageContracts.Settings.Document.TokenRow
import PageContracts.Settings.Loader
import PageContracts.Settings.LoggerSetup
import PageContracts.Settings.Lookup
import PageContracts.Template.Fill
import PageContracts.Template.Piece
import PageContracts.TestHooks
import PageContracts.Text.Cases
import PageContracts.Text.CharacterTables
import PageContracts.Text.Characters
import PageContracts.Text.FormEncoding
import PageContracts.Text.NameTables
import PageContracts.Text.Names
import PageContracts.Text.NormalFormTables
import PageContracts.Text.Quoted
import PageContracts.Text.Searching
import PageContracts.Value
import PageContracts.Value.Arithmetic
import PageContracts.Value.Conversion
import PageContracts.Value.Layout
import PageContracts.World
