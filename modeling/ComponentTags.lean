import ComponentTags.Source
import ComponentTags.Engine.Render
import ComponentTags.Main
import ComponentTags.Proofs.Text.Positions
import ComponentTags.Proofs.Markup.Lenient
import ComponentTags.Proofs.Markup.Steps
import ComponentTags.Proofs.Markup.Projection
import ComponentTags.Proofs.Markup.Agreement
import ComponentTags.Proofs.Markup.Tiling
import ComponentTags.Proofs.Markup.Addition
import ComponentTags.Proofs.Markup.Crossing
import ComponentTags.Proofs.Markup.Faults
import ComponentTags.Proofs.Markup.RawText
import ComponentTags.Proofs.Span.Cut
import ComponentTags.Proofs.Markup.Reader
import ComponentTags.Proofs.Graph
import ComponentTags.Proofs.Resolution
import ComponentTags.Proofs.Engine.Register
import ComponentTags.Proofs.Engine.Makes
import ComponentTags.Proofs.Engine.Bookkeeping
import ComponentTags.Proofs.Engine.Order
import ComponentTags.Proofs.Scope.Pieces
import ComponentTags.Proofs.Scope.Crossed
import ComponentTags.Proofs.Scope.Lexed
import ComponentTags.Proofs.Scope.Tokens
import ComponentTags.Proofs.Scope.Replaced
import ComponentTags.Proofs.Scope.Bindings
import ComponentTags.Proofs.Scope.Assignments
import ComponentTags.Proofs.Scope.Marks
import ComponentTags.Proofs.Scope.Closed
import ComponentTags.Proofs.Scope.Composition
import ComponentTags.Proofs.Scope.Spliced
import ComponentTags.Proofs.Scope.Reopened
import ComponentTags.Proofs.Scope.Respelled
import ComponentTags.Proofs.Scope.Restored
import ComponentTags.Proofs.Scope.Joined
import ComponentTags.Proofs.Scope.Nesting
import ComponentTags.Proofs.Scope.Single
import ComponentTags.Proofs.Scope.Targets
import ComponentTags.Proofs.Scope.Calls
import ComponentTags.Proofs.Lowered.Reads
import ComponentTags.Proofs.Lowered.Values
import ComponentTags.Proofs.Lowered.Carriers
import ComponentTags.Proofs.Lowered.Succeeds
import ComponentTags.Proofs.Lowered.Faults
import ComponentTags.Proofs.Lowered.Numbered
import ComponentTags.Proofs.Lowered.Divisions
import ComponentTags.Proofs.Lowered.Literals
import ComponentTags.Proofs.Value.Callables
import ComponentTags.Proofs.Engine.Passed
import ComponentTags.Proofs.Engine.Upkeep
import ComponentTags.Proofs.Engine.Session
import ComponentTags.Proofs.Engine.Journal
import ComponentTags.Proofs.Engine.Traced
import ComponentTags.Proofs.Engine.Resolves
import ComponentTags.Proofs.Template.Computed
import ComponentTags.Proofs.Template.Bound
import ComponentTags.Proofs.Template.Changes
import ComponentTags.Proofs.Template.Worlds
import ComponentTags.Proofs.Template.Stored
import ComponentTags.Proofs.Template.Contexts
import ComponentTags.Proofs.Template.Evaluated
import ComponentTags.Proofs.Template.Executed
import ComponentTags.Proofs.Template.Called
import ComponentTags.Proofs.Template.Strings
import ComponentTags.Proofs.Engine.Rendered
import ComponentTags.Proofs.Component.Binding
import ComponentTags.Proofs.Hoisting.Transparent
