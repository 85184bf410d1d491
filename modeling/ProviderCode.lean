import ProviderCode.Decimal.Layout
import ProviderCode.Decimal.Numeral
import ProviderCode.Decimal.Shortest
import ProviderCode.Error
import ProviderCode.Format.Basic
import ProviderCode.Format.Choice
import ProviderCode.Format.Error
import ProviderCode.Format.Record
import ProviderCode.Json.Token
import ProviderCode.Json.Tree
import ProviderCode.Json.Value
import ProviderCode.Node.Adapter
import ProviderCode.Node.Basic
import ProviderCode.Node.Build
import ProviderCode.Node.Children
import ProviderCode.Node.Clause
import ProviderCode.Node.Equality
import ProviderCode.Node.External
import ProviderCode.Node.Field
import ProviderCode.Node.Imports
import ProviderCode.Node.Kind
import ProviderCode.Node.Schema
import ProviderCode.Node.TypeExpression
import ProviderCode.Node.TypePair
import ProviderCode.Node.Walk
import ProviderCode.Proofs.Adaptable
import ProviderCode.Proofs.AdapterCalls
import ProviderCode.Proofs.AllFiles
import ProviderCode.Proofs.AttributeRoundTrip
import ProviderCode.Proofs.BlockRoundTrip
import ProviderCode.Proofs.BuiltNode
import ProviderCode.Proofs.Children
import ProviderCode.Proofs.ClosedSchema
import ProviderCode.Proofs.ClosedText
import ProviderCode.Proofs.CompleteSpecification
import ProviderCode.Proofs.Construction
import ProviderCode.Proofs.DeclarationOrder
import ProviderCode.Proofs.DeclaredMethods
import ProviderCode.Proofs.DeclaredTypes
import ProviderCode.Proofs.ElementTypeRoundTrip
import ProviderCode.Proofs.EqualDefinitions
import ProviderCode.Proofs.EqualOutput
import ProviderCode.Proofs.EqualSchemas
import ProviderCode.Proofs.FacetEquality
import ProviderCode.Proofs.FacetRoundTrip
import ProviderCode.Proofs.FieldNames
import ProviderCode.Proofs.FirstFault
import ProviderCode.Proofs.FirstKind
import ProviderCode.Proofs.FormatRoundTrip
import ProviderCode.Proofs.FrameworkPackages
import ProviderCode.Proofs.GeneratedTypes
import ProviderCode.Proofs.ImportSteps
import ProviderCode.Proofs.JsonNumbers
import ProviderCode.Proofs.JsonTokens
import ProviderCode.Proofs.JsonTrees
import ProviderCode.Proofs.KeyLiterals
import ProviderCode.Proofs.KeyOrder
import ProviderCode.Proofs.LiteralText
import ProviderCode.Proofs.LocalVariables
import ProviderCode.Proofs.MemberOrder
import ProviderCode.Proofs.MergedChildren
import ProviderCode.Proofs.NameCases
import ProviderCode.Proofs.NodeEquality
import ProviderCode.Proofs.NodeImports
import ProviderCode.Proofs.NumberText
import ProviderCode.Proofs.ObjectOfBlock
import ProviderCode.Proofs.PairOrder
import ProviderCode.Proofs.PendingPairs
import ProviderCode.Proofs.Preorder
import ProviderCode.Proofs.PrintedAdapters
import ProviderCode.Proofs.PrintedTypes
import ProviderCode.Proofs.Qualifiers
import ProviderCode.Proofs.RecordFields
import ProviderCode.Proofs.RecordRoundTrip
import ProviderCode.Proofs.RegularFormats
import ProviderCode.Proofs.RegularRecords
import ProviderCode.Proofs.RegularTypes
import ProviderCode.Proofs.RenderedText
import ProviderCode.Proofs.Rendering
import ProviderCode.Proofs.ReorderedTypes
import ProviderCode.Proofs.Results
import ProviderCode.Proofs.Rewriting
import ProviderCode.Proofs.SchemaPackages
import ProviderCode.Proofs.SchemaSources
import ProviderCode.Proofs.SchemaText
import ProviderCode.Proofs.SectionSources
import ProviderCode.Proofs.SpecificationRoundTrip
import ProviderCode.Proofs.Statements
import ProviderCode.Proofs.StructFields
import ProviderCode.Proofs.TemplatePackages
import ProviderCode.Proofs.TemplateSources
import ProviderCode.Proofs.TreeShape
import ProviderCode.Proofs.TypeFunctions
import ProviderCode.Proofs.TypeOrder
import ProviderCode.Proofs.UsedImports
import ProviderCode.Proofs.UsedPackages
import ProviderCode.Proofs.ValueFunctions
import ProviderCode.Proofs.VisibleTypes
import ProviderCode.Proofs.WrittenImports
import ProviderCode.Resource.File
import ProviderCode.Resource.Tree
import ProviderCode.Source.Chunk
import ProviderCode.Source.Import
import ProviderCode.Source.Imports
import ProviderCode.Source.Literal
import ProviderCode.Source.Name
import ProviderCode.Source.Package
import ProviderCode.Specification.Attribute
import ProviderCode.Specification.AttributeFormat
import ProviderCode.Specification.ElementType
import ProviderCode.Specification.ElementTypeFormat
import ProviderCode.Specification.Facet
import ProviderCode.Specification.FacetFormat
import ProviderCode.Template.Adapters
import ProviderCode.Template.Basic
import ProviderCode.Template.ObjectType
import ProviderCode.Template.ObjectValue
import ProviderCode.Template.Places
import ProviderCode.Text.Alphanumeric
import ProviderCode.Text.CaseRun
import ProviderCode.Text.CodeRange
import ProviderCode.Text.Lowercase
import ProviderCode.Text.Printable
import ProviderCode.Text.Shown
import ProviderCode.Text.Uppercase
