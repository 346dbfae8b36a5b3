import BoundEntity.Binding.Basic
import BoundEntity.Binding.Binder
import BoundEntity.Cache
import BoundEntity.Declaration.Attribute
import BoundEntity.Declaration.Comment
import BoundEntity.Declaration.Defect
import BoundEntity.Declaration.Expression.Basic
import BoundEntity.Declaration.Expression.Grammar
import BoundEntity.Declaration.Expression.Operator
import BoundEntity.Declaration.Expression.Start
import BoundEntity.Declaration.Host
import BoundEntity.Declaration.HostFunction
import BoundEntity.Declaration.Item.Basic
import BoundEntity.Declaration.Item.Data
import BoundEntity.Declaration.Item.Grammar
import BoundEntity.Declaration.Item.Member
import BoundEntity.Declaration.Literal
import BoundEntity.Declaration.Member
import BoundEntity.Declaration.MethodBlock
import BoundEntity.Declaration.Model
import BoundEntity.Declaration.PartReaders
import BoundEntity.Declaration.Path
import BoundEntity.Declaration.Pattern
import BoundEntity.Declaration.Phrase
import BoundEntity.Declaration.Reader
import BoundEntity.Declaration.Token
import BoundEntity.Declaration.TypeSyntax.Basic
import BoundEntity.Declaration.TypeSyntax.Grammar
import BoundEntity.Declaration.TypeText
import BoundEntity.Dispatch.Call
import BoundEntity.Dispatch.Generator
import BoundEntity.Dispatch.Intercept
import BoundEntity.Dispatch.Store
import BoundEntity.Dispatch.Table
import BoundEntity.Entity.Class
import BoundEntity.Entity.TypedMethod
import BoundEntity.Fault
import BoundEntity.Field.Conversion
import BoundEntity.Field.Date
import BoundEntity.Field.Timestamp
import BoundEntity.Field.Uuid
import BoundEntity.Json.Basic
import BoundEntity.Json.NumberText
import BoundEntity.Json.Parser
import BoundEntity.Json.Printer
import BoundEntity.Json.Written
import BoundEntity.Keyed
import BoundEntity.Metadata.Basic
import BoundEntity.Metadata.Document
import BoundEntity.Number.Binary64
import BoundEntity.Number.Decimal
import BoundEntity.Number.FloatStyle
import BoundEntity.Number.Numeral
import BoundEntity.Proofs.Accepted
import BoundEntity.Proofs.Admission
import BoundEntity.Proofs.CacheAccount
import BoundEntity.Proofs.CacheSlots
import BoundEntity.Proofs.Coercion
import BoundEntity.Proofs.Derivation
import BoundEntity.Proofs.EntityFields
import BoundEntity.Proofs.Failure
import BoundEntity.Proofs.Growth
import BoundEntity.Proofs.History
import BoundEntity.Proofs.JsonContext
import BoundEntity.Proofs.KeySharing
import BoundEntity.Proofs.MapQueries
import BoundEntity.Proofs.MapView
import BoundEntity.Proofs.Materialize
import BoundEntity.Proofs.Noninterference
import BoundEntity.Proofs.PlainMap
import BoundEntity.Proofs.Retention
import BoundEntity.Proofs.Serving
import BoundEntity.Proofs.SingleFlight
import BoundEntity.Proofs.Store
import BoundEntity.Proofs.Transparency
import BoundEntity.Proofs.TypedValues
import BoundEntity.Proofs.WrittenForms
import BoundEntity.Proofs.Yield
import BoundEntity.Record.Basic
import BoundEntity.Record.Gallery
import BoundEntity.Record.Script
import BoundEntity.Settings
import BoundEntity.Text.Blank
import BoundEntity.Text.Hex
import BoundEntity.Text.Identifier
import BoundEntity.Text.Identifier.Table
import BoundEntity.Text.Inspect
import BoundEntity.Value.Basic
import BoundEntity.Value.Coerce
import BoundEntity.Value.Untagged
import BoundEntity.Proofs.Removal
import BoundEntity.Proofs.ComputedProperties
import BoundEntity.Proofs.Obstacles
import BoundEntity.Proofs.Recency
import BoundEntity.Proofs.Accessors
import BoundEntity.Proofs.Refusals
import BoundEntity.Proofs.Derivers
import BoundEntity.Proofs.Members
import BoundEntity.Proofs.Links
import BoundEntity.Proofs.Providers
import BoundEntity.Proofs.CoercedConversion
import BoundEntity.Proofs.StoredValues
import BoundEntity.Proofs.TypedReads
import BoundEntity.Proofs.Arity
import BoundEntity.Proofs.OtherArguments
import BoundEntity.Proofs.UntaggedForm
import BoundEntity.Proofs.AttributeBag
import BoundEntity.Proofs.OptionLists
import BoundEntity.Proofs.SupportedModels
import BoundEntity.Proofs.SupportedBlocks
import BoundEntity.Proofs.DoubleUnits
import BoundEntity.Proofs.WholeDoubles
import BoundEntity.Proofs.NearDoubles
import BoundEntity.Proofs.ValueEquality
import BoundEntity.Proofs.TextDetour
import BoundEntity.Proofs.RawNames
