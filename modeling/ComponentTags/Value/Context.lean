/-
# Contexts

The context that the content of a component runs with: the component whose template the content
stands in, the component that is rendered as a whole, and the variables that were captured where the
content stands.
-/
import ComponentTags.Value.Basic

namespace ComponentTags

/-- The context of a content. -/
structure Context where
  /-- The component whose template the content stands in. -/
  dot : Value
  /-- The component that is rendered as a whole. -/
  root : Value
  /-- The captured variables. -/
  locals : Table Text Value := []

namespace Context

/-- The context with further variables; those it has already get new values. -/
def extend (c : Context) (values : Table Text Value) : Context :=
  { c with locals := c.locals.setAll values }

/-- A context as a value. -/
def toValue (c : Context) : Value := .context c.dot c.root c.locals

end Context

end ComponentTags
