import OlapQuery.Aggregates
import OlapQuery.Attribute
import OlapQuery.Binding
import OlapQuery.Catalog
import OlapQuery.CommandLine
import OlapQuery.CompileError
import OlapQuery.DataType
import OlapQuery.Dataset
import OlapQuery.Decimal.Layout
import OlapQuery.Decimal.Reader
import OlapQuery.Decimal.Shortest
import OlapQuery.Druid.Aggregation
import OlapQuery.Druid.Decode
import OlapQuery.Druid.Encode
import OlapQuery.Druid.Extraction
import OlapQuery.Druid.Filter
import OlapQuery.Druid.Interval
import OlapQuery.Druid.Plan
import OlapQuery.Druid.Query
import OlapQuery.Druid.Script
import OlapQuery.Execution
import OlapQuery.Expr.Basic
import OlapQuery.Expr.Codec
import OlapQuery.Expr.Conjunction
import OlapQuery.Expr.Typing
import OlapQuery.Fold
import OlapQuery.Fold.Chain
import OlapQuery.Fold.Measure
import OlapQuery.Fold.Query
import OlapQuery.Json.Basic
import OlapQuery.Json.Number
import OlapQuery.Json.Parser
import OlapQuery.Json.Printer
import OlapQuery.Json.Record
import OlapQuery.Main
import OlapQuery.Plan
import OlapQuery.PostProcess
import OlapQuery.Proofs.Aliases
import OlapQuery.Proofs.ArithmeticNames
import OlapQuery.Proofs.BoundaryNames
import OlapQuery.Proofs.BucketPatterns
import OlapQuery.Proofs.Calendar
import OlapQuery.Proofs.Chain
import OlapQuery.Proofs.ChainOrder
import OlapQuery.Proofs.Checked
import OlapQuery.Proofs.CheckedFilter
import OlapQuery.Proofs.Clauses
import OlapQuery.Proofs.ClientSort
import OlapQuery.Proofs.ClientSplit
import OlapQuery.Proofs.ClosedQueries
import OlapQuery.Proofs.CollectedAggregates
import OlapQuery.Proofs.Collection
import OlapQuery.Proofs.DatasetRoots
import OlapQuery.Proofs.Definitions
import OlapQuery.Proofs.DialectAlike
import OlapQuery.Proofs.DialectTables
import OlapQuery.Proofs.Dialogue
import OlapQuery.Proofs.DruidForm
import OlapQuery.Proofs.DruidMembership
import OlapQuery.Proofs.DurationGrammar
import OlapQuery.Proofs.DurationTexts
import OlapQuery.Proofs.EmittedIntervals
import OlapQuery.Proofs.EmittedQueries
import OlapQuery.Proofs.ExactNumbers
import OlapQuery.Proofs.ExpandedAggregates
import OlapQuery.Proofs.ExpandedFilters
import OlapQuery.Proofs.ExpressionForm
import OlapQuery.Proofs.FlatConjunctions
import OlapQuery.Proofs.FoldRun
import OlapQuery.Proofs.FoldedFilter
import OlapQuery.Proofs.Formulas
import OlapQuery.Proofs.Fragments
import OlapQuery.Proofs.GroupedColumns
import OlapQuery.Proofs.HavingConditions
import OlapQuery.Proofs.Hoisting
import OlapQuery.Proofs.InPlaceTimes
import OlapQuery.Proofs.Inlining
import OlapQuery.Proofs.IntervalSteps
import OlapQuery.Proofs.IntervalTexts
import OlapQuery.Proofs.JsonLiterals
import OlapQuery.Proofs.JsonRecords
import OlapQuery.Proofs.JsonTexts
import OlapQuery.Proofs.KeyFilters
import OlapQuery.Proofs.KeyFormats
import OlapQuery.Proofs.KeyNames
import OlapQuery.Proofs.KeyTexts
import OlapQuery.Proofs.KeyValueTypes
import OlapQuery.Proofs.LastDefinition
import OlapQuery.Proofs.LetterCodes
import OlapQuery.Proofs.LiteralSources
import OlapQuery.Proofs.LooseTimes
import OlapQuery.Proofs.MappedExpressions
import OlapQuery.Proofs.MappedValues
import OlapQuery.Proofs.Months
import OlapQuery.Proofs.NativeAggregators
import OlapQuery.Proofs.NegatedTimes
import OlapQuery.Proofs.NestedRows
import OlapQuery.Proofs.Nesting
import OlapQuery.Proofs.NestingDepth
import OlapQuery.Proofs.NormalAggregates
import OlapQuery.Proofs.NumberIdentity
import OlapQuery.Proofs.NumberTexts
import OlapQuery.Proofs.OrderedRanges
import OlapQuery.Proofs.Outermost
import OlapQuery.Proofs.PartReader
import OlapQuery.Proofs.PlainRows
import OlapQuery.Proofs.PlannedColumns
import OlapQuery.Proofs.ReadBack
import OlapQuery.Proofs.ReadColumns
import OlapQuery.Proofs.Reading
import OlapQuery.Proofs.RegroupedExtremes
import OlapQuery.Proofs.RenamedRows
import OlapQuery.Proofs.Renaming
import OlapQuery.Proofs.RowFilters
import OlapQuery.Proofs.RowLimits
import OlapQuery.Proofs.RowOrder
import OlapQuery.Proofs.Sameness
import OlapQuery.Proofs.ScopedTypes
import OlapQuery.Proofs.ScriptFormulas
import OlapQuery.Proofs.ScriptGrouping
import OlapQuery.Proofs.ScriptReadBack
import OlapQuery.Proofs.ScriptReader
import OlapQuery.Proofs.SettledFloors
import OlapQuery.Proofs.ShadowedClauses
import OlapQuery.Proofs.Shifts
import OlapQuery.Proofs.ShortestDigits
import OlapQuery.Proofs.Simplification
import OlapQuery.Proofs.Simulation
import OlapQuery.Proofs.SortedRows
import OlapQuery.Proofs.SplitChains
import OlapQuery.Proofs.SqlConditions
import OlapQuery.Proofs.SqlContents
import OlapQuery.Proofs.SqlReader
import OlapQuery.Proofs.SqlTokens
import OlapQuery.Proofs.Statements
import OlapQuery.Proofs.Structure
import OlapQuery.Proofs.Substitution
import OlapQuery.Proofs.Tables
import OlapQuery.Proofs.TemplateFrames
import OlapQuery.Proofs.TemplateTexts
import OlapQuery.Proofs.TimeBuckets
import OlapQuery.Proofs.TimeLifting
import OlapQuery.Proofs.TimeParts
import OlapQuery.Proofs.TimeTexts
import OlapQuery.Proofs.Together
import OlapQuery.Proofs.TokenStructure
import OlapQuery.Proofs.TrimmedBounds
import OlapQuery.Proofs.ValueForm
import OlapQuery.Proofs.VariableTexts
import OlapQuery.Proofs.WholeNumbers
import OlapQuery.Proofs.WordDoubles
import OlapQuery.Proofs.WrittenFormulas
import OlapQuery.Regex.Automaton
import OlapQuery.Regex.ByteSequence
import OlapQuery.Regex.Normal
import OlapQuery.Regex.Parser
import OlapQuery.Regex.Pattern
import OlapQuery.Regex.Property
import OlapQuery.Settings
import OlapQuery.Sql.BuiltInTables
import OlapQuery.Sql.Dialect
import OlapQuery.Sql.Plan
import OlapQuery.Sql.Render
import OlapQuery.Sql.Select
import OlapQuery.Sql.Tables
import OlapQuery.Sql.Template
import OlapQuery.Table
import OlapQuery.Text.Letters
import OlapQuery.Text.Lower
import OlapQuery.Time.Calendar
import OlapQuery.Time.Duration
import OlapQuery.Time.Instant
import OlapQuery.Time.LooseText
import OlapQuery.Time.Part
import OlapQuery.Time.Zone
import OlapQuery.Time.ZoneTable
import OlapQuery.TimeFilter
import OlapQuery.Toml.Document
import OlapQuery.Toml.Parser
import OlapQuery.Toml.Scalar
import OlapQuery.Toml.Token
import OlapQuery.Unicode.Age
import OlapQuery.Unicode.Break
import OlapQuery.Unicode.Case
import OlapQuery.Unicode.Category
import OlapQuery.Unicode.CodeSet
import OlapQuery.Unicode.Derived
import OlapQuery.Unicode.Folding
import OlapQuery.Unicode.Listed
import OlapQuery.Unicode.Script
import OlapQuery.Value
import OlapQuery.Value.Codec
import OlapQuery.Word
