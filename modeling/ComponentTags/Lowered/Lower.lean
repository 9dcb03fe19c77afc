/-
# Lowering

From the nodes of a template to a lowered template.  Blocks are numbered in the order in which their
components begin, and a block is finished when everything in it is.  The content of a component is
closed before it is lowered, so inside a block only the context of the block is left to refer to
the template around it.
-/
import ComponentTags.Lowered.Write

namespace ComponentTags

/-! ## Values of attributes -/

/-- Text that is held back, as a part of a value. -/
def heldPart (held : Text) : List ValuePart := if held.isEmpty then [] else [.literal held.reverse]

/-- The parts of a value, of which `count` characters are already passed; `held` are the characters
since the last expression in reverse order. -/
def partsFrom (d : Delimiters) (count : Nat) (held : Text) : Text → Except Fault (List ValuePart)
  | [] => .ok (heldPart held)
  | c :: rest =>
    if Span.kindAt? d (c :: rest) = some .expression then
      match Span.length d false (c :: rest) with
      | .error f => .error (f.shift count)
      | .ok 0 => .error ⟨count, .emptySpan⟩
      | .ok (n + 1) =>
        match partsFrom d (count + (n + 1)) [] (rest.drop n) with
        | .error f => .error f
        | .ok more =>
          let body := (Span.split d .expression (c :: rest.take n)).body
          .ok (heldPart held ++ .expression (Text.trim body) :: more)
    else partsFrom d (count + 1) (c :: held) rest
termination_by text => text.length
decreasing_by all_goals (simp only [List.length_cons, List.length_drop]; omega)

/-- The parts of a value; an empty value has one empty part. -/
def valueParts (d : Delimiters) (value : Text) : Except ParseError (List ValuePart) :=
  match partsFrom d 0 [] value with
  | .error f => .error (.ofFault value none f)
  | .ok [] => .ok [.literal []]
  | .ok parts => .ok parts

/-- The parts of the values of attributes. -/
def lowerAttributes (d : Delimiters) :
    Table Text Text → Except ParseError (Table Text (List ValuePart))
  | [] => .ok []
  | (key, value) :: rest =>
    match valueParts d value with
    | .error e => .error e
    | .ok parts =>
      match lowerAttributes d rest with
      | .error e => .error e
      | .ok more => .ok ((key, parts) :: more)

/-! ## Nodes -/

/-- Lowered nodes: their items, the blocks that the items use, and the number of blocks so far. -/
structure Lowering where
  /-- The items. -/
  items : List Item
  /-- The blocks. -/
  blocks : List Block
  /-- How many blocks there are so far. -/
  count : Nat
deriving Repr

/-- The name of a block: that of the component with the number of the block. -/
def blockName (tag : Text) (number : Nat) : Text :=
  reservedStart ++ tag ++ "__" ++ Text.ofNat number

/-- Lowers nodes when there are `count` blocks already; `nested` says whether the nodes are the
content of a block. -/
def lowerNodes (d : Delimiters) (nested : Bool) (count : Nat) :
    List Node → Except ParseError Lowering
  | [] => .ok ⟨[], [], count⟩
  | .raw content :: rest =>
    match lowerNodes d nested count rest with
    | .error e => .error e
    | .ok more => .ok { more with items := .text content :: more.items }
  | .component tag attributes [] _ _ :: rest =>
    match lowerAttributes d attributes with
    | .error e => .error e
    | .ok values =>
      match lowerNodes d nested count rest with
      | .error e => .error e
      | .ok more => .ok { more with items := .call ⟨tag, [], values, .absent⟩ :: more.items }
  | .component tag attributes (child :: children) _ _ :: rest =>
    match _h : captureNodes (child :: children) [] d with
    | .error e => .error e
    | .ok (content, captured) =>
      match lowerAttributes d attributes with
      | .error e => .error e
      | .ok values =>
        match lowerNodes d true (count + 1) content with
        | .error e => .error e
        | .ok inner =>
          match lowerNodes d nested inner.count rest with
          | .error e => .error e
          | .ok more =>
            let name := blockName tag (count + 1)
            let carrier := if nested then .extended captured else .fresh captured
            .ok ⟨.call ⟨tag, name, values, carrier⟩ :: more.items,
              inner.blocks ++ ⟨name, inner.items⟩ :: more.blocks, more.count⟩
termination_by nodes => (Node.walk nodes).length
decreasing_by
  · simp [Node.walk, Node.withDescendants]
  · simp [Node.walk, Node.withDescendants]
  · rw [length_walk_captureNodes _h]
    simp only [Node.walk, Node.withDescendants, List.cons_append, List.length_cons,
      List.length_append]
    omega
  · simp only [Node.walk, Node.withDescendants, List.cons_append, List.length_cons,
      List.length_append]
    omega

/-- Lowers the nodes of a template. -/
def lower (nodes : List Node) (d : Delimiters := .standard) : Except ParseError Lowered :=
  match lowerNodes d false 0 nodes with
  | .error e => .error e
  | .ok result => .ok ⟨result.blocks, result.items⟩

end ComponentTags
