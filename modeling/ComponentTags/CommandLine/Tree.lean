/-
# Trees of nodes

Nodes drawn as a tree: every node on a line of its own, behind guides that lead to it from its parent.
-/
import ComponentTags.Node

namespace ComponentTags.CommandLine

/-- The guide in front of a node that others follow. -/
def branchGuide : Text := "├── "

/-- The guide in front of the last node. -/
def lastGuide : Text := "└── "

/-- What stands in front of the lines below a node that others follow. -/
def passingGuide : Text := "│   "

/-- What stands in front of the lines below the last node. -/
def emptyGuide : Text := "    "

/-- A component with its attributes. -/
def label (tag : Text) (attributes : Table Text Text) : Text :=
  '<' :: tag ++ '>' :: attributes.flatMap fun (key, value) =>
    ' ' :: key ++ '=' :: Text.quoted value

mutual

/-- The lines of a node, the first behind `guide` and the others behind `below`. -/
def treeLines (guide below : Text) : Node → List Text
  | .raw content => [guide ++ Text.quoted content]
  | .component tag attributes children _ _ =>
    (guide ++ label tag attributes) :: forestLines below children

/-- The lines of the children of a node, behind the guides of the node. -/
def forestLines (start : Text) : List Node → List Text
  | [] => []
  | [node] => treeLines (start ++ lastGuide) (start ++ emptyGuide) node
  | node :: next :: rest =>
    treeLines (start ++ branchGuide) (start ++ passingGuide) node ++
      forestLines start (next :: rest)

end

end ComponentTags.CommandLine
