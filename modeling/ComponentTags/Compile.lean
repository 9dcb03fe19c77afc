/-
# Compiling templates

A template is compiled by parsing it and lowering its nodes.  The result is a text of the template
language without component tags, together with the names that may become components later.
-/
import ComponentTags.Lowered.Lower
import ComponentTags.Markup.Parse

namespace ComponentTags

/-- The number of components that may be open at the same time where nothing else is said. -/
def usualLevels : Nat := 400

/-- A compiled template. -/
structure Compiled where
  /-- The nodes of the template. -/
  nodes : List Node
  /-- The lowered template. -/
  lowered : Lowered
  /-- The names of tags that may become components, each once. -/
  deferred : List Text
deriving Repr

/-- Compiles a template in which at most `levels` components are open at the same time, given the names of
the known components. -/
def compile (levels : Nat) (text : Text) (components : List Text) (d : Delimiters := .standard)
    (name : Option Text := none) : Except ParseError Compiled :=
  match Markup.parseWithin levels text components d name with
  | .error e => .error e
  | .ok parsed =>
    match lower parsed.nodes d with
    | .error e => .error e
    | .ok lowered => .ok ⟨parsed.nodes, lowered, parsed.deferred⟩

end ComponentTags
