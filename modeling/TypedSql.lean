import TypedSql.FileSystem.Memory
import TypedSql.Main
import TypedSql.Proofs.Conversion.Ledger
import TypedSql.Proofs.Conversion.Constructs
import TypedSql.Proofs.Conversion.Numbering
import TypedSql.Proofs.Analysis.LooseScope
import TypedSql.Proofs.Analysis.LooseTyping
import TypedSql.Proofs.Analysis.Nullability
import TypedSql.Proofs.Catalog.Invariant
import TypedSql.Proofs.Analysis.Provenance
import TypedSql.Proofs.Conversion.Shape
import TypedSql.Proofs.Analysis.Failure
import TypedSql.Proofs.Catalog.History
import TypedSql.Proofs.Conversion.OuterJoins
import TypedSql.Proofs.Analysis.RepeatedPlaceholders
import TypedSql.Proofs.Conversion.LimitOperands
import TypedSql.Proofs.Catalog.Effects
import TypedSql.Proofs.Catalog.Frame
import TypedSql.Proofs.Analysis.ParameterList
import TypedSql.Proofs.Script.Splitting
import TypedSql.Proofs.Queries.Agreement
import TypedSql.Proofs.Queries.Alike
import TypedSql.Proofs.Queries.Parentheses
import TypedSql.Proofs.Queries.NamedTables
import TypedSql.Proofs.Compilation.Accounting
import TypedSql.Proofs.Compilation.Options
import TypedSql.Proofs.Queries.Locations
import TypedSql.Proofs.Script.Excerpts
import TypedSql.Proofs.Compilation.Isolation
import TypedSql.Proofs.Catalog.Sequencing
import TypedSql.Proofs.Queries.StarExpansion
import TypedSql.Proofs.Queries.Inlining
import TypedSql.Proofs.Analysis.NullSoundness
import TypedSql.Proofs.Analysis.Resolution
import TypedSql.Proofs.Queries.SourceOrder
import TypedSql.Proofs.Analysis.UnknownNames
import TypedSql.Proofs.Queries.OtherNumbers
import TypedSql.Proofs.Queries.SetOperations
import TypedSql.Proofs.Analysis.InsertPositions
import TypedSql.Proofs.Queries.JoinedUpdates
import TypedSql.Proofs.Analysis.InsertArity
import TypedSql.Proofs.Catalog.Tolerance
import TypedSql.Proofs.Catalog.Independence
import TypedSql.Proofs.Catalog.Undoing
import TypedSql.Proofs.Text.Trimming
import TypedSql.Proofs.Text.Lowering
import TypedSql.Proofs.Script.Headers
import TypedSql.Proofs.Conversion.TypeArguments
import TypedSql.Proofs.Conversion.Variation
import TypedSql.Proofs.Conversion.Similarity
import TypedSql.Proofs.Conversion.Simulation
import TypedSql.Proofs.Conversion.TestedQueries
import TypedSql.Proofs.Conversion.LetterCase
import TypedSql.Proofs.Compilation.LetterCase
import TypedSql.Proofs.Conversion.Matching
import TypedSql.Proofs.Json.Descriptors
import TypedSql.Proofs.Script.Places
