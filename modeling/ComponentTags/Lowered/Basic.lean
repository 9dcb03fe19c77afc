/-
# Lowered templates

What a template becomes when its components are taken out.  Text stays text; every use of a component
becomes a call, which has the values of its attributes and, if the component has content, the name of
the block that holds the content.  The blocks of a template stand in front of its body, the blocks
within a block in front of that block.

A call also carries the context of its content: how the content gets at the component whose template
it stands in, at the rendered component, and at the variables of its place.
-/
import ComponentTags.Scope.Capture

namespace ComponentTags

/-- A part of an attribute's value. -/
inductive ValuePart where
  /-- Text as it stands. -/
  | literal (text : Text)
  /-- An expression of the template language. -/
  | expression (text : Text)
deriving DecidableEq, Repr

/-- The context that a call carries for the content of the component. -/
inductive Carrier where
  /-- The component has no content. -/
  | absent
  /-- The call stands in the body of the template: a new context with the captured variables. -/
  | fresh (captured : List Text)
  /-- The call stands in a block: the context of the block, extended by the captured variables. -/
  | extended (captured : List Text)
deriving DecidableEq, Repr

/-- A use of a component. -/
structure Call where
  /-- The name of the component. -/
  tag : Text
  /-- The name of the block that holds its content; empty if it has no content. -/
  block : Text
  /-- The parts of the values of its attributes. -/
  attributes : Table Text (List ValuePart)
  /-- The context for its content. -/
  carrier : Carrier
deriving DecidableEq, Repr

/-- A part of the body of a template or a block. -/
inductive Item where
  /-- Text as it stands. -/
  | text (content : Text)
  /-- A use of a component. -/
  | call (call : Call)
deriving DecidableEq, Repr

/-- The content of a component. -/
structure Block where
  /-- The name of the block. -/
  name : Text
  /-- What is in it. -/
  body : List Item
deriving DecidableEq, Repr

/-- A lowered template. -/
structure Lowered where
  /-- The blocks, each behind those that its own content uses. -/
  blocks : List Block
  /-- The body. -/
  body : List Item
deriving DecidableEq, Repr

end ComponentTags
