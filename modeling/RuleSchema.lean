import RuleSchema.Files.Documents
import RuleSchema.Network.Builder
import RuleSchema.Document.PathJson
import RuleSchema.Registry.ConfigReader
import RuleSchema.Proofs.Document.Induction
import RuleSchema.Proofs.Document.Reach
import RuleSchema.Proofs.Document.Paths
import RuleSchema.Proofs.Rule.Structure
import RuleSchema.Proofs.Compile.Recursion
import RuleSchema.Proofs.Compile.Completeness
import RuleSchema.Proofs.NameMap
import RuleSchema.Proofs.Types.Conformance
import RuleSchema.Proofs.Validation.Outcomes
import RuleSchema.Proofs.Types.Explained
import RuleSchema.Proofs.Types.Soundness
import RuleSchema.Proofs.Decimal.WholeRounding
import RuleSchema.Proofs.Decimal.WholeFloats
import RuleSchema.Proofs.Types.Visits
import RuleSchema.Proofs.Level.Order
import RuleSchema.Proofs.Compile.Rereading
import RuleSchema.Proofs.Property.Inheritance
import RuleSchema.Proofs.Property.Heirs
import RuleSchema.Proofs.Compile.Loading
import RuleSchema.Proofs.Network.Graphs
import RuleSchema.Proofs.Registry.Lookup
import RuleSchema.Proofs.Network.Runs
import RuleSchema.Proofs.Property.ParentGraph
import RuleSchema.Proofs.Property.Cycles
import RuleSchema.Proofs.Document.Changes
import RuleSchema.Proofs.Rule.Changes
import RuleSchema.Proofs.Compile.Annotations
import RuleSchema.Proofs.Document.Addressing
import RuleSchema.Proofs.Compile.Termination
import RuleSchema.Proofs.Level.Merging
import RuleSchema.Proofs.Document.Equality
import RuleSchema.Proofs.Document.Reordering
import RuleSchema.Proofs.Document.Editing
import RuleSchema.Proofs.Document.KeySearch
import RuleSchema.Proofs.Document.Refusal
import RuleSchema.Proofs.FirstAppearances
import RuleSchema.Proofs.Document.Merging
import RuleSchema.Proofs.Document.TextKeys
import RuleSchema.Proofs.Document.MergedLookup
import RuleSchema.Proofs.Document.MergeStages
import RuleSchema.Proofs.Validation.Likeness
import RuleSchema.Proofs.Types.Reordering
import RuleSchema.Proofs.Compile.InputOrder
import RuleSchema.Proofs.Types.Dicts
import RuleSchema.Proofs.Property.Selection
import RuleSchema.Proofs.Network.Blocks
import RuleSchema.Proofs.Rule.Trees
import RuleSchema.Proofs.Rule.Resolution
import RuleSchema.Proofs.Validation.Comparisons
import RuleSchema.Proofs.Value.Lossless
import RuleSchema.Proofs.Value.Paths
import RuleSchema.Proofs.Types.Multiples
import RuleSchema.Proofs.Decimal.FloatOrder
import RuleSchema.Proofs.Types.FloatBounds
import RuleSchema.Proofs.Types.Reporting
import RuleSchema.Proofs.Rule.Complements
import RuleSchema.Proofs.Decimal.ShortestDigits
import RuleSchema.Proofs.Decimal.NumberTexts
import RuleSchema.Proofs.Json.Strings
import RuleSchema.Proofs.Json.Forms
import RuleSchema.Proofs.Yaml.LineEnds
import RuleSchema.Proofs.Compile.Digests
import RuleSchema.Proofs.Compile.Calls
