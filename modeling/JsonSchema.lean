import JsonSchema.FileTree
import JsonSchema.Json.Canonical
import JsonSchema.Main
import JsonSchema.Proofs.Attempt
import JsonSchema.Proofs.Check.Congruence
import JsonSchema.Proofs.Check.Composition
import JsonSchema.Proofs.Check.Conjunctive
import JsonSchema.Proofs.Check.Uniform
import JsonSchema.Proofs.Compilation.Resource
import JsonSchema.Proofs.Merge.Blending
import JsonSchema.Proofs.Merge.Compatible
import JsonSchema.Proofs.Recursion.Checks
import JsonSchema.Proofs.Recursion.Completion
import JsonSchema.Proofs.Recursion.Easing
import JsonSchema.Proofs.Reference.Host
import JsonSchema.Proofs.Reference.Indexed
import JsonSchema.Proofs.Reference.Rebase
import JsonSchema.Proofs.Reference.Siblings
import JsonSchema.Proofs.Reduction.Folded
import JsonSchema.Proofs.Reduction.Required
import JsonSchema.Proofs.Reduction.Steps
import JsonSchema.Proofs.Reduction.Folding
import JsonSchema.Proofs.Node.Handle
import JsonSchema.Proofs.Reduction.AcceptedData
import JsonSchema.Proofs.Reduction.Composed
import JsonSchema.Proofs.Reduction.FixedPoint
import JsonSchema.Proofs.Node.Navigation
import JsonSchema.Proofs.Reduction.Acceptance
import JsonSchema.Proofs.Reduction.Success
import JsonSchema.Proofs.Check.Displacement
import JsonSchema.Proofs.Recursion.Displacement
import JsonSchema.Proofs.Check.Location
import JsonSchema.Proofs.Check.Uniqueness
import JsonSchema.Proofs.Compilation.Standing
import JsonSchema.Proofs.Direct.Agreement
import JsonSchema.Proofs.Recursion.Reentry
import JsonSchema.Proofs.Json.Equivalence
import JsonSchema.Proofs.Reference.Anchors
import JsonSchema.Proofs.Node.Binding
import JsonSchema.Proofs.Node.Displacement
import JsonSchema.Proofs.Node.Order
import JsonSchema.Proofs.Pointer.Written
import JsonSchema.Proofs.Compilation.Places
import JsonSchema.Proofs.Compilation.Separation
import JsonSchema.Proofs.Pointer.Encoded
import JsonSchema.Proofs.Reference.Entries
import JsonSchema.Proofs.Reference.Lookup
import JsonSchema.Proofs.Compilation.Core
import JsonSchema.Proofs.Recursion.Depth
import JsonSchema.Proofs.Reference.Core
import JsonSchema.Proofs.Node.Core
import JsonSchema.Proofs.Reduction.Remnants
import JsonSchema.Proofs.Reduction.Static
import JsonSchema.Proofs.Reduction.EvaluatedProperties
import JsonSchema.Proofs.Reduction.Dependencies
import JsonSchema.Proofs.Reduction.EvaluatedItems
import JsonSchema.Proofs.Reference.Visited
import JsonSchema.Proofs.Reduction.Clashes
import JsonSchema.Proofs.Number.Quotient
import JsonSchema.Proofs.Number.Multiple
import JsonSchema.Proofs.Check.Scopes
import JsonSchema.Proofs.Check.Reports
import JsonSchema.Proofs.Node.Properties
import JsonSchema.Proofs.Reduction.Selection
import JsonSchema.Proofs.Node.Selection
import JsonSchema.Proofs.Reference.Static
import JsonSchema.Proofs.Recursion.Static
import JsonSchema.Proofs.Reduction.Settled
import JsonSchema.Proofs.Node.Walk
import JsonSchema.Proofs.Check.Dispatch
import JsonSchema.Proofs.Merge.Lossless
import JsonSchema.Proofs.Compilation.Superseded
import JsonSchema.Proofs.Store.Names

