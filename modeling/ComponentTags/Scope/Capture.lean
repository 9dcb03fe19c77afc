/-
# Capturing variables

The content of a component is closed over the variables that it takes from around it: a text is
taken apart into spans and what lies between them, and in every span the variables that are free at
its place are replaced by look-ups in the context of the content.  Comments and raw blocks are left
alone.  The result comes with the captured names, in the order of their first use.

What a statement binds holds for the text and the nodes behind it; attributes and children of a
component see what is bound in front of the component and bind nothing outside.
-/
import ComponentTags.Node
import ComponentTags.Scope.Substitution

namespace ComponentTags

/-! ## Pieces of a text -/

/-- A piece of a text. -/
inductive Piece where
  /-- Text between spans, a comment or a raw block. -/
  | verbatim (text : Text)
  /-- An expression or a statement. -/
  | span (kind : SpanKind) (text : Text)
deriving DecidableEq, Repr

/-- The pieces of a text, of which `count` characters are already passed. -/
def pieces (d : Delimiters) (count : Nat) : Text → Except Fault (List Piece)
  | [] => .ok []
  | c :: rest =>
    match Span.kindAt? d (c :: rest) with
    | none =>
      match pieces d (count + 1) rest with
      | .error f => .error f
      | .ok more => .ok (.verbatim [c] :: more)
    | some kind =>
      match Span.length d false (c :: rest) with
      | .error f => .error (f.shift count)
      | .ok 0 => .error ⟨count, .emptySpan⟩
      | .ok (n + 1) =>
        match pieces d (count + (n + 1)) (rest.drop n) with
        | .error f => .error f
        | .ok more =>
          let text := c :: rest.take n
          if kind = .comment || (kind = .statement && Span.statementName d (c :: rest) = "raw") then
            .ok (.verbatim text :: more)
          else .ok (.span kind text :: more)
termination_by text => text.length
decreasing_by all_goals (simp only [List.length_cons, List.length_drop]; omega)

/-! ## Texts -/

/-- A closed text, the names it captures, and the scope behind it. -/
structure Captured where
  /-- The new text. -/
  text : Text
  /-- The captured names, each as often as it occurs. -/
  captured : List Text
  /-- The scope behind the text. -/
  scope : Scope

/-- The marked tokens of the body of a span. -/
def markSpan (scope : Scope) (kind : SpanKind) (body : Text) : List (Token × Bool) :=
  if kind = .statement then markStatement scope.names (tokens body)
  else markExpression scope.names (tokens body)

/-- The scope behind a span. -/
def scopeBehind (scope : Scope) (kind : SpanKind) (body : Text) : Scope :=
  if kind = .statement then scope.afterStatement (tokens body) else scope

/-- Closes a piece. -/
def capturePiece (d : Delimiters) (scope : Scope) : Piece → Captured
  | .verbatim text => ⟨text, [], scope⟩
  | .span kind text =>
    let parts := Span.split d kind text
    let marked := markSpan scope kind parts.body
    ⟨parts.opening ++ replacedText marked ++ parts.closing, capturedNames marked,
      scopeBehind scope kind parts.body⟩

/-- Closes pieces one after the other. -/
def capturePieces (d : Delimiters) (scope : Scope) : List Piece → Captured
  | [] => ⟨[], [], scope⟩
  | piece :: rest =>
    let first := capturePiece d scope piece
    let more := capturePieces d first.scope rest
    ⟨first.text ++ more.text, first.captured ++ more.captured, more.scope⟩

/-- Closes a text from a scope on. -/
def captureIn (d : Delimiters) (scope : Scope) (text : Text) : Except ParseError Captured :=
  match pieces d 0 text with
  | .error f => .error (.ofFault text none f)
  | .ok ps => .ok (capturePieces d scope ps)

/-- Closes a text in which some names are bound.  The result is the new text with the captured
names, in the order of their first use. -/
def captureText (text : Text) (bound : List Text := []) (d : Delimiters := .standard) :
    Except ParseError (Text × List Text) :=
  match captureIn d ⟨bound, []⟩ text with
  | .error e => .error e
  | .ok r => .ok (r.text, r.captured.eraseDups)

/-! ## Nodes -/

/-- Closes the values of attributes where some names are bound. -/
def captureAttributes (d : Delimiters) (bound : List Text) :
    Table Text Text → Except ParseError (Table Text Text × List Text)
  | [] => .ok ([], [])
  | (key, value) :: rest =>
    match captureIn d ⟨bound, []⟩ value with
    | .error e => .error e
    | .ok r =>
      match captureAttributes d bound rest with
      | .error e => .error e
      | .ok (entries, captured) => .ok ((key, r.text) :: entries, r.captured ++ captured)

/-- Closes nodes from a scope on. -/
def captureFrom (d : Delimiters) (scope : Scope) :
    List Node → Except ParseError (List Node × List Text)
  | [] => .ok ([], [])
  | .raw content :: rest =>
    match captureIn d scope content with
    | .error e => .error e
    | .ok r =>
      match captureFrom d r.scope rest with
      | .error e => .error e
      | .ok (nodes, captured) => .ok (.raw r.text :: nodes, r.captured ++ captured)
  | .component tag attributes children selfClosing offset :: rest =>
    match captureAttributes d scope.names attributes with
    | .error e => .error e
    | .ok (entries, inAttributes) =>
      match captureFrom d ⟨scope.names, []⟩ children with
      | .error e => .error e
      | .ok (inner, inChildren) =>
        match captureFrom d scope rest with
        | .error e => .error e
        | .ok (nodes, captured) =>
          .ok (.component tag entries inner selfClosing offset :: nodes,
            inAttributes ++ inChildren ++ captured)
termination_by nodes => (Node.walk nodes).length
decreasing_by
  all_goals
    simp only [Node.walk, Node.withDescendants, List.length_append, List.length_cons, List.length_nil]
    omega

/-- Closes nodes in which some names are bound.  The result is the new nodes with the captured
names, in the order of their first use. -/
def captureNodes (nodes : List Node) (bound : List Text := []) (d : Delimiters := .standard) :
    Except ParseError (List Node × List Text) :=
  match captureFrom d ⟨bound, []⟩ nodes with
  | .error e => .error e
  | .ok (closed, captured) => .ok (closed, captured.eraseDups)

/-! ## Small facts -/

/-- Capturing keeps the number of nodes. -/
theorem length_walk_captureFrom {d : Delimiters} {scope : Scope} {nodes closed : List Node}
    {captured : List Text} (h : captureFrom d scope nodes = .ok (closed, captured)) :
    (Node.walk closed).length = (Node.walk nodes).length := by
  fun_induction captureFrom d scope nodes generalizing closed captured with
  | case1 =>
    simp only [Except.ok.injEq, Prod.mk.injEq] at h
    rw [← h.1]
  | case2 => cases h
  | case3 => cases h
  | case4 scope content rest r _ nodes inRest hr ih =>
    simp only [Except.ok.injEq, Prod.mk.injEq] at h
    rw [← h.1]
    simp [Node.walk, Node.withDescendants, ih hr]
  | case5 => cases h
  | case6 => cases h
  | case7 => cases h
  | case8 =>
    rename_i ihChildren ihRest
    simp only [Except.ok.injEq, Prod.mk.injEq] at h
    rw [← h.1]
    simp_all [Node.walk, Node.withDescendants]

theorem length_walk_captureNodes {nodes closed : List Node} {bound captured : List Text}
    {d : Delimiters} (h : captureNodes nodes bound d = .ok (closed, captured)) :
    (Node.walk closed).length = (Node.walk nodes).length := by
  unfold captureNodes at h
  split at h
  · cases h
  · next hr =>
    simp only [Except.ok.injEq, Prod.mk.injEq] at h
    rw [← h.1]
    exact length_walk_captureFrom hr

end ComponentTags
