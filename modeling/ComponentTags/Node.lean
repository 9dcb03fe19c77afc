/-
# Nodes

A template is parsed into a list of nodes.  A raw node is text that passes through unchanged: literal
markup and template spans alike.  A component node is a use of a component with its attributes and
the nodes between its tags.
-/
import ComponentTags.Table
import ComponentTags.Text.Quoted

namespace ComponentTags

/-- A node of a parsed template. -/
inductive Node where
  /-- Text that passes through unchanged. -/
  | raw (content : Text)
  /-- A use of the component `tag`, found at `offset` of the template. -/
  | component (tag : Text) (attributes : Table Text Text) (children : List Node)
      (selfClosing : Bool) (offset : Int)
deriving Repr, BEq, Inhabited

namespace Node

/-- The name of the component that a node uses. -/
def tag? : Node → Option Text
  | raw _ => none
  | component tag .. => some tag

mutual

/-- A node and all nodes below it, from the top downwards and from the front to the back. -/
def withDescendants : Node → List Node
  | raw content => [raw content]
  | component tag attributes children selfClosing offset =>
    component tag attributes children selfClosing offset :: walk children

/-- All nodes of a list and below it, from the top downwards and from the front to the back. -/
def walk : List Node → List Node
  | [] => []
  | node :: rest => withDescendants node ++ walk rest

end

/-! ## Listings -/

/-- Attributes as they are listed: `key='value'`, separated by blanks. -/
def listAttributes (attributes : Table Text Text) : Text :=
  Text.join " " (attributes.map fun (key, value) => key ++ "=" ++ Text.quoted value)

/-- The first line of a component in a listing. -/
def listingHead (tag : Text) (attributes : Table Text Text) : Text :=
  "Component(" ++ tag ++
    (if attributes.isEmpty then [] else ' ' :: listAttributes attributes) ++ ")"

mutual

/-- The lines of a node in a listing, two more blanks in front of each line of a child. -/
def listing (indent : Nat) : Node → List Text
  | raw content => [List.replicate indent ' ' ++ "Raw(" ++ Text.quoted content ++ ")"]
  | component tag attributes children _ _ =>
    let pad := List.replicate indent ' '
    match children with
    | [] => [pad ++ listingHead tag attributes]
    | child :: rest =>
      (pad ++ listingHead tag attributes ++ " \x7b") ::
        (listing (indent + 2) child ++ listings (indent + 2) rest) ++ [pad ++ "\x7d"]

/-- The lines of several nodes in a listing. -/
def listings (indent : Nat) : List Node → List Text
  | [] => []
  | node :: rest => listing indent node ++ listings indent rest

end

/-- A listing of nodes as one text, without a final line feed. -/
def pretty (indent : Nat) (nodes : List Node) : Text := Text.join "\n" (listings indent nodes)

theorem walk_append (a b : List Node) : walk (a ++ b) = walk a ++ walk b := by
  induction a with
  | nil => simp [walk]
  | cons node rest ih => simp [walk, ih]

end Node

end ComponentTags
