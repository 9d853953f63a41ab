import ValueSchema.Cache.Store
import ValueSchema.Compiled.Node
import ValueSchema.Json.Reader
import ValueSchema.Proofs.Layer
import ValueSchema.Proofs.Likeness.Basic
import ValueSchema.Proofs.Parts
import ValueSchema.UserCode.Vocabulary
import ValueSchema.Value.OfJson
import ValueSchema.Proofs.Likeness.Containers
import ValueSchema.Proofs.Likeness.Tests
import ValueSchema.Proofs.Likeness.Choices
import ValueSchema.Proofs.Likeness.Layer
import ValueSchema.Proofs.Likeness.Paths
import ValueSchema.Proofs.Agreement.Containers
import ValueSchema.Proofs.Agreement.Schemas
import ValueSchema.Proofs.Termination.Layer
import ValueSchema.Proofs.Termination.Families
import ValueSchema.Proofs.Plans
import ValueSchema.Proofs.Compiled.Nodes
import ValueSchema.Proofs.Compiled.Outputs
import ValueSchema.Proofs.Compiled.Fits
import ValueSchema.Proofs.Compiled.Judging
import ValueSchema.Proofs.Compiled.Correctness
import ValueSchema.Proofs.Compiled.Sharing
import ValueSchema.Proofs.Sanitised.Values
import ValueSchema.Proofs.Sanitised.Schemas
import ValueSchema.Proofs.Awaiting.Loops
import ValueSchema.Proofs.Awaiting.Schemas
import ValueSchema.Proofs.Caching.Histories
import ValueSchema.Proofs.Likeness.Copies
import ValueSchema.Proofs.Caching.Transparency
import ValueSchema.Proofs.Idempotence.Trims
import ValueSchema.Proofs.Idempotence.Parallel
import ValueSchema.Proofs.Idempotence.Merging
import ValueSchema.Proofs.Idempotence.Sequences
import ValueSchema.Proofs.Idempotence.Fields
import ValueSchema.Proofs.Idempotence.Choices
import ValueSchema.Proofs.Idempotence.Pure
import ValueSchema.Proofs.Idempotence.Budgets
import ValueSchema.Proofs.Idempotence.Schemas
import ValueSchema.Proofs.Caching.Orders
import ValueSchema.Proofs.Caching.Recall
import ValueSchema.Proofs.Rerooting.Paths
import ValueSchema.Proofs.Rerooting.Layer
import ValueSchema.Proofs.Rerooting.Schemas
import ValueSchema.Proofs.Termination.Tests
import ValueSchema.Proofs.Termination.Extension
import ValueSchema.Proofs.Termination.Rations
import ValueSchema.Proofs.Termination.Outputs
import ValueSchema.Proofs.Termination.Nodes
import ValueSchema.Proofs.Termination.Schemas
import ValueSchema.Proofs.Patterns.Shapes
import ValueSchema.Proofs.Patterns.Walks
import ValueSchema.Proofs.Patterns.Tokens
import ValueSchema.Proofs.Patterns.Counts
import ValueSchema.Proofs.Patterns.Classes
import ValueSchema.Proofs.Patterns.Atoms
import ValueSchema.Proofs.Patterns.Parts
import ValueSchema.Proofs.Patterns.Sight
import ValueSchema.Proofs.Patterns.Refusal
import ValueSchema.Proofs.Patterns.Exactness
import ValueSchema.Proofs.Sanitised.RecordKeys
import ValueSchema.Proofs.Intersecting.Orders
import ValueSchema.Proofs.Intersecting.Twice
import ValueSchema.Proofs.Constraints
import ValueSchema.Proofs.Requiring
import ValueSchema.Proofs.TaggedUnions
import ValueSchema.Proofs.Messages.Overrides
import ValueSchema.Proofs.Crashes
import ValueSchema.Proofs.Uniqueness
import ValueSchema.Proofs.Equality
import ValueSchema.Proofs.Recombining
import ValueSchema.Proofs.Compiled.Statistics
import ValueSchema.Proofs.Caching.Fingerprints
import ValueSchema.Proofs.Folding
