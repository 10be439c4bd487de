import GuardedPlan.Main
import GuardedPlan.Proofs.Compile.Emission
import GuardedPlan.Proofs.Base.Lists
import GuardedPlan.Proofs.Policy.Permission
import GuardedPlan.Proofs.Execution.Preflight
import GuardedPlan.Proofs.Decode.Reading
import GuardedPlan.Proofs.Schema.Meets
import GuardedPlan.Proofs.Manifest.Checked
import GuardedPlan.Proofs.Compile.Gate
import GuardedPlan.Proofs.Base.Bytes
import GuardedPlan.Proofs.Base.Tables
import GuardedPlan.Proofs.Text.Substitution
import GuardedPlan.Proofs.Glob.Language
import GuardedPlan.Proofs.Glob.Literal
import GuardedPlan.Proofs.Path.Segments
import GuardedPlan.Proofs.Policy.Spelling
import GuardedPlan.Proofs.Plan.Shape
import GuardedPlan.Proofs.Plan.RoundTrip
import GuardedPlan.Proofs.FileTree.Node
import GuardedPlan.Proofs.FileTree.Walk
import GuardedPlan.Proofs.FileTree.Writing
import GuardedPlan.Proofs.FileTree.Standing
import GuardedPlan.Proofs.Spec.Checked
import GuardedPlan.Proofs.Compile.Persistence
import GuardedPlan.Proofs.Decision.Forest
import GuardedPlan.Proofs.Decision.Lookup
import GuardedPlan.Proofs.Decision.Descent
import GuardedPlan.Proofs.Decision.Cycle
import GuardedPlan.Proofs.Compile.Decided
import GuardedPlan.Proofs.Compile.Claimed
import GuardedPlan.Proofs.Execution.Order
import GuardedPlan.Proofs.Execution.Refusal
import GuardedPlan.Proofs.Execution.Confinement
import GuardedPlan.Proofs.Execution.Rerun
import GuardedPlan.Proofs.Execution.RouteTable
import GuardedPlan.Proofs.Execution.PageFiles
import GuardedPlan.Proofs.Execution.IgnoredCache
import GuardedPlan.Proofs.Execution.TrackedDirectory
import GuardedPlan.Proofs.Plan.Call
import GuardedPlan.Proofs.Compile.Advisory
import GuardedPlan.Proofs.Schema.Agreement
import GuardedPlan.Proofs.Plan.Checked
import GuardedPlan.Proofs.Document.Decoding
import GuardedPlan.Proofs.Json.Adjusted
import GuardedPlan.Proofs.Plan.Image
import GuardedPlan.Proofs.Plan.Translation
import GuardedPlan.Proofs.Plan.Program
import GuardedPlan.Proofs.Number.Rounding
import GuardedPlan.Proofs.Text.Headings
import GuardedPlan.Proofs.Text.Similarity
import GuardedPlan.Proofs.Text.NormalForm
import GuardedPlan.Proofs.Text.Template
import GuardedPlan.Proofs.Policy.Segments
import GuardedPlan.Proofs.Registry.Directory
