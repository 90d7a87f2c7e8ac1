import ActorFacade.Text.Basic
import ActorFacade.Text.Blank
import ActorFacade.Text.DecimalDigit
import ActorFacade.Text.Printable
import ActorFacade.Text.Word
import ActorFacade.Text.Identifier
import ActorFacade.Text.Lines
import ActorFacade.Text.Utf8
import ActorFacade.Text.Quoted
import ActorFacade.Text.Escaped
import ActorFacade.Calendar
import ActorFacade.Number.Double
import ActorFacade.Number.Arithmetic
import ActorFacade.Number.Shortest
import ActorFacade.Number.Integer
import ActorFacade.Value.Basic
import ActorFacade.Value.Scattered
import ActorFacade.Value.Key
import ActorFacade.Value.Circular
import ActorFacade.Value.Items
import ActorFacade.Value.Display
import ActorFacade.Value.Normal
import ActorFacade.Literal.Writer
import ActorFacade.Literal.Token
import ActorFacade.Literal.Reader
import ActorFacade.Literal.Grammar
import ActorFacade.Literal.Derivation
import ActorFacade.Declaration
import ActorFacade.Operation
import ActorFacade.Docblock
import ActorFacade.Signature
import ActorFacade.Template
import ActorFacade.Template.Substitution
import ActorFacade.Digest.Sha256
import ActorFacade.Fingerprint
import ActorFacade.ActorText
import ActorFacade.Inherited
import ActorFacade.Files.Path
import ActorFacade.Files.Error
import ActorFacade.Files.Disk
import ActorFacade.Yaml.Cursor
import ActorFacade.Yaml.Scalar
import ActorFacade.Yaml.Token
import ActorFacade.Yaml.Lexing
import ActorFacade.Yaml.Kind
import ActorFacade.Yaml.Node
import ActorFacade.Yaml.Binary
import ActorFacade.Text.Lower
import ActorFacade.Yaml.Atom
import ActorFacade.Yaml.Merging
import ActorFacade.Yaml.Reading
import ActorFacade.Suite.Basic
import ActorFacade.Suite.Reading
import ActorFacade.Suite.Loading
import ActorFacade.Hierarchy.Linear
import ActorFacade.Hierarchy.Reserved
import ActorFacade.Hierarchy.Basic
import ActorFacade.Value.Conversion
import ActorFacade.Hierarchy.Calling
import ActorFacade.Hierarchy.Layout
import ActorFacade.Standard.Types
import ActorFacade.Hierarchy.Declaring
import ActorFacade.Provider
import ActorFacade.Provider.Attributes
import ActorFacade.Provider.Making
import ActorFacade.Source.Basic
import ActorFacade.Source.Declared
import ActorFacade.Source.Reachable
import ActorFacade.Source.Inspected
import ActorFacade.Source.Described
import ActorFacade.Journal
import ActorFacade.Reporting
import ActorFacade.Reporting.Events
import ActorFacade.Environment
import ActorFacade.Registry.Restriction
import ActorFacade.Registry
import ActorFacade.Registry.Precedence
import ActorFacade.Actor.Method
import ActorFacade.Actor.Expansion
import ActorFacade.Actor.Rendering
import ActorFacade.Actor.Generator
import ActorFacade.Build
import ActorFacade.CommandLine.Arguments
import ActorFacade.CommandLine.Complaint
import ActorFacade.CommandLine.Run
import ActorFacade.CommandLine.Places
import ActorFacade.Main
import ActorFacade.Proofs.Text.Digits
import ActorFacade.Proofs.Number.Rounding
import ActorFacade.Proofs.Number.Decimal
import ActorFacade.Proofs.Literal.Numeral
import ActorFacade.Proofs.Literal.Strings
import ActorFacade.Proofs.Literal.Tokens
import ActorFacade.Proofs.Literal.Lexing
import ActorFacade.Proofs.Literal.Completeness
import ActorFacade.Proofs.Literal.Soundness
import ActorFacade.Proofs.Literal.Derivation
import ActorFacade.Proofs.Literal.Uniqueness
import ActorFacade.Proofs.Value.Normal
import ActorFacade.Proofs.Literal.RoundTrip
import ActorFacade.Proofs.Journal
import ActorFacade.Proofs.Operation
import ActorFacade.Proofs.Operation.Collision
import ActorFacade.Proofs.Registry.Stability
import ActorFacade.Proofs.Registry.Table
import ActorFacade.Proofs.Actor.Expansion
import ActorFacade.Proofs.Actor.Collection
import ActorFacade.Proofs.Text.Replacement
import ActorFacade.Proofs.Text.Occurrence
import ActorFacade.Proofs.Text.Lines
import ActorFacade.Proofs.Template.Substitution
import ActorFacade.Proofs.Template.Filling
import ActorFacade.Proofs.Actor.Text
import ActorFacade.Proofs.Files.Disk
import ActorFacade.Proofs.Build.Writing
import ActorFacade.Proofs.Build.Stamp
import ActorFacade.Proofs.Fingerprint
import ActorFacade.Proofs.Actor.Production
import ActorFacade.Proofs.Docblock
import ActorFacade.Proofs.Build.Caching
import ActorFacade.Proofs.Build.Idempotence
import ActorFacade.Proofs.FirstPlaces
import ActorFacade.Proofs.Source.Walks
import ActorFacade.Proofs.Source.Lookup
import ActorFacade.Proofs.Actor.Identity
import ActorFacade.Proofs.Registry.Precedence
import ActorFacade.Proofs.Hierarchy.Declaring
import ActorFacade.Proofs.Registry.Exposure
import ActorFacade.Proofs.Source.Classes
import ActorFacade.Proofs.Source.Resolution
import ActorFacade.Proofs.Registry.Settling
import ActorFacade.Proofs.Registry.Failures
import ActorFacade.Proofs.Actor.Resolution
import ActorFacade.Proofs.Files.Keeping
import ActorFacade.Proofs.Build.Failing
import ActorFacade.Proofs.Actor.Requests
import ActorFacade.Proofs.Environment
import ActorFacade.Proofs.Registry.Modules
import ActorFacade.Proofs.Literal.Refusal
import ActorFacade.Proofs.Signature
import ActorFacade.Proofs.Actor.Refusal
import ActorFacade.Proofs.Number.Rational
import ActorFacade.Proofs.Value.Key
import ActorFacade.Proofs.Literal.Stability
import ActorFacade.Proofs.Literal.Numbering
import ActorFacade.Proofs.Source.Interfaces
import ActorFacade.Proofs.Source.Agreement
import ActorFacade.Proofs.Hierarchy.Single
import ActorFacade.Proofs.Source.Chains
import ActorFacade.Proofs.Source.Adding
import ActorFacade.Proofs.Source.Anchoring
import ActorFacade.Proofs.Text.Trimming
import ActorFacade.Proofs.Docblock.Shape
import ActorFacade.Proofs.Docblock.Comment
import ActorFacade.Proofs.Template.Placing
import ActorFacade.Proofs.Literal.Delimiting
import ActorFacade.Proofs.Signature.Entries
import ActorFacade.Proofs.Signature.Blame
import ActorFacade.Proofs.Value.Display
import ActorFacade.Proofs.Suite.Listing
import ActorFacade.Proofs.Actor.Conditional
import ActorFacade.Proofs.Literal.Positions
import ActorFacade.Proofs.Text.Chunks
import ActorFacade.Proofs.Build.Replacing
import ActorFacade.Proofs.Files.Resolving
import ActorFacade.Proofs.Value.Circular
import ActorFacade.Proofs.Suite.Loading
import ActorFacade.Proofs.Source.Binding
import ActorFacade.Proofs.Files.Appending
import ActorFacade.Proofs.Reporting
