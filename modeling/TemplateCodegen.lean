import TemplateCodegen.Main
import TemplateCodegen.Datum.Json
import TemplateCodegen.Storage.FileTree
import TemplateCodegen.Proofs.ClassIdentifier.ArgumentList
import TemplateCodegen.Proofs.ClassIdentifier.Arity
import TemplateCodegen.Proofs.ClassIdentifier.Attribute
import TemplateCodegen.Proofs.ClassIdentifier.Brackets
import TemplateCodegen.Proofs.ClassIdentifier.FileKey
import TemplateCodegen.Proofs.ClassIdentifier.Rereading
import TemplateCodegen.Proofs.ClassIdentifier.Stability
import TemplateCodegen.Proofs.Definition.Contributions
import TemplateCodegen.Proofs.Definition.Deduplication
import TemplateCodegen.Proofs.Definition.Naming
import TemplateCodegen.Proofs.Definition.Positions
import TemplateCodegen.Proofs.Definition.Refusal
import TemplateCodegen.Proofs.Definition.Tolerance
import TemplateCodegen.Proofs.Incremental.Building
import TemplateCodegen.Proofs.Incremental.Consistency
import TemplateCodegen.Proofs.Incremental.Delivery
import TemplateCodegen.Proofs.Incremental.Economy
import TemplateCodegen.Proofs.Incremental.History
import TemplateCodegen.Proofs.Incremental.Polling
import TemplateCodegen.Proofs.Incremental.Progress
import TemplateCodegen.Proofs.Incremental.QuietRun
import TemplateCodegen.Proofs.Incremental.Recomputation
import TemplateCodegen.Proofs.Incremental.Refresh
import TemplateCodegen.Proofs.Incremental.Resumption
import TemplateCodegen.Proofs.Incremental.Scratch
import TemplateCodegen.Proofs.Incremental.Session
import TemplateCodegen.Proofs.Incremental.Settled
import TemplateCodegen.Proofs.Incremental.Showing
import TemplateCodegen.Proofs.Incremental.Turnover
import TemplateCodegen.Proofs.Incremental.Upkeep
import TemplateCodegen.Proofs.Output.Collisions
import TemplateCodegen.Proofs.Output.Conservation
import TemplateCodegen.Proofs.Output.Cosmetics
import TemplateCodegen.Proofs.Output.Grouping
import TemplateCodegen.Proofs.Output.Header
import TemplateCodegen.Proofs.Output.Keys
import TemplateCodegen.Proofs.Parameter.Order
import TemplateCodegen.Proofs.Parameter.Repeats
import TemplateCodegen.Proofs.Pipeline.Admission
import TemplateCodegen.Proofs.Pipeline.Agreement
import TemplateCodegen.Proofs.Pipeline.Composition
import TemplateCodegen.Proofs.Pipeline.Isolation
import TemplateCodegen.Proofs.Pipeline.Journal
import TemplateCodegen.Proofs.Pipeline.Pass
import TemplateCodegen.Proofs.Pipeline.Readings
import TemplateCodegen.Proofs.Pipeline.Spelling
import TemplateCodegen.Proofs.Pipeline.Wired
import TemplateCodegen.Proofs.Places
import TemplateCodegen.Proofs.Storage.Placement
import TemplateCodegen.Proofs.Template.Avoidance
import TemplateCodegen.Proofs.Template.Bracketing
import TemplateCodegen.Proofs.Template.Concatenation
import TemplateCodegen.Proofs.Template.Dependence
import TemplateCodegen.Proofs.Template.Distinct
import TemplateCodegen.Proofs.Template.Entries
import TemplateCodegen.Proofs.Template.Grammar
import TemplateCodegen.Proofs.Template.Insertion
import TemplateCodegen.Proofs.Template.Mismatches
import TemplateCodegen.Proofs.Template.Nesting
import TemplateCodegen.Proofs.Template.Restriction
import TemplateCodegen.Proofs.Template.Scanning
import TemplateCodegen.Proofs.Template.Sections
import TemplateCodegen.Proofs.Template.Shape
import TemplateCodegen.Proofs.Template.Tiling
import TemplateCodegen.Proofs.Template.Tokenizing
import TemplateCodegen.Proofs.Text.FileKey
import TemplateCodegen.Proofs.Text.Trimming
import TemplateCodegen.Proofs.Usage.Arguments
import TemplateCodegen.Proofs.Usage.Repetition
import TemplateCodegen.Proofs.Usage.TypeArguments
