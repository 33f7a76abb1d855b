import ConstraintDirectives.Binary64.Basic
import ConstraintDirectives.Binary64.Numeral
import ConstraintDirectives.Binary64.Shortest
import ConstraintDirectives.Constraint.Declared
import ConstraintDirectives.Constraint.Description
import ConstraintDirectives.Constraint.Name
import ConstraintDirectives.Constraint.Satisfaction
import ConstraintDirectives.Constraint.Tree
import ConstraintDirectives.Directive.Decoding
import ConstraintDirectives.Directive.Definition
import ConstraintDirectives.Directive.Extraction
import ConstraintDirectives.Directive.ScalarRules
import ConstraintDirectives.Directive.SchemaText
import ConstraintDirectives.Directive.Vocabulary
import ConstraintDirectives.Entries
import ConstraintDirectives.Index.Basic
import ConstraintDirectives.Index.Guard
import ConstraintDirectives.Index.Inheritance
import ConstraintDirectives.Index.TypeTable
import ConstraintDirectives.Index.Validation
import ConstraintDirectives.Json.Basic
import ConstraintDirectives.Json.Number
import ConstraintDirectives.Json.Reader
import ConstraintDirectives.Json.Shape
import ConstraintDirectives.Json.Sorted
import ConstraintDirectives.OrderedMap
import ConstraintDirectives.Pattern.Anchor
import ConstraintDirectives.Pattern.Automaton
import ConstraintDirectives.Pattern.Basic
import ConstraintDirectives.Pattern.Class
import ConstraintDirectives.Pattern.Escape
import ConstraintDirectives.Pattern.Expression
import ConstraintDirectives.Pattern.Flags
import ConstraintDirectives.Pattern.Nested
import ConstraintDirectives.Pattern.Property
import ConstraintDirectives.Pattern.Reader
import ConstraintDirectives.Pattern.Search
import ConstraintDirectives.Proofs.Acceptance
import ConstraintDirectives.Proofs.Compilation
import ConstraintDirectives.Proofs.CompilationFaults
import ConstraintDirectives.Proofs.CompiledViews
import ConstraintDirectives.Proofs.Conformance
import ConstraintDirectives.Proofs.Conjunction
import ConstraintDirectives.Proofs.Coverage
import ConstraintDirectives.Proofs.Decoding
import ConstraintDirectives.Proofs.DistinctTrees
import ConstraintDirectives.Proofs.Extraction
import ConstraintDirectives.Proofs.FieldNames
import ConstraintDirectives.Proofs.FirstArrival
import ConstraintDirectives.Proofs.Force
import ConstraintDirectives.Proofs.IndexShape
import ConstraintDirectives.Proofs.Inheritance
import ConstraintDirectives.Proofs.Interpretation
import ConstraintDirectives.Proofs.JsonNumbers
import ConstraintDirectives.Proofs.JsonText
import ConstraintDirectives.Proofs.ListDepth
import ConstraintDirectives.Proofs.Matching
import ConstraintDirectives.Proofs.Merging
import ConstraintDirectives.Proofs.Permission
import ConstraintDirectives.Proofs.PrunedVerdict
import ConstraintDirectives.Proofs.Pruning
import ConstraintDirectives.Proofs.Renaming
import ConstraintDirectives.Proofs.Reordering
import ConstraintDirectives.Proofs.Rephrasing
import ConstraintDirectives.Proofs.SchemaGrowth
import ConstraintDirectives.Proofs.SchemaRoundTrip
import ConstraintDirectives.Proofs.Sequencing
import ConstraintDirectives.Proofs.SuppliedOrder
import ConstraintDirectives.Proofs.Traversal
import ConstraintDirectives.Proofs.TypeTrees
import ConstraintDirectives.Proofs.TypeWalk
import ConstraintDirectives.Proofs.ValueOrder
import ConstraintDirectives.Proofs.ValueParts
import ConstraintDirectives.Proofs.Verdict
import ConstraintDirectives.Proofs.WellTyped
import ConstraintDirectives.Proofs.WrittenOrder
import ConstraintDirectives.Schema.Basic
import ConstraintDirectives.Schema.Json
import ConstraintDirectives.Schema.NamedType
import ConstraintDirectives.Text.Added
import ConstraintDirectives.Text.CaseFold
import ConstraintDirectives.Text.Category
import ConstraintDirectives.Text.CodeRanges
import ConstraintDirectives.Text.Letters
import ConstraintDirectives.Text.Printable
import ConstraintDirectives.Text.Property
import ConstraintDirectives.Text.Quoted
import ConstraintDirectives.Text.Reader
import ConstraintDirectives.Text.Script
import ConstraintDirectives.Text.SharedScript
import ConstraintDirectives.Text.Utf8
import ConstraintDirectives.Value.Basic
import ConstraintDirectives.Value.Json
import ConstraintDirectives.Value.Path
import ConstraintDirectives.Proofs.WholeNumbers
import ConstraintDirectives.Proofs.LiteralMeaning
import ConstraintDirectives.Proofs.Multiples
import ConstraintDirectives.Proofs.NumberForms
import ConstraintDirectives.Proofs.SameClasses
import ConstraintDirectives.Proofs.AcceptedDefinitions
import ConstraintDirectives.Proofs.ExplicitNulls
import ConstraintDirectives.Proofs.JsonReaders
import ConstraintDirectives.Proofs.ValueRoundTrip
import ConstraintDirectives.Proofs.PathText
import ConstraintDirectives.Proofs.SingleDefinition
import ConstraintDirectives.Proofs.ArgumentBlame
import ConstraintDirectives.Proofs.NestedCalls
import ConstraintDirectives.Proofs.DecodingEnds
import ConstraintDirectives.Proofs.GatheredOnce
import ConstraintDirectives.Proofs.Repeats
