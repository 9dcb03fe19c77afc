/-
# Blocks

A loop, a `with`, a macro and a call open a block, and what is bound in the block is bound up to the
statement that closes it.  The open blocks are kept as a stack of frames, so where all blocks of a text
are properly nested (`Nested`), closing the text can only bind names in the frame that was the innermost
one in front of it (`Nested.exists_scope`): every block takes its own frame away again.  Whether blocks
are properly nested is checked with a stack of the statements that close them (`nested_iff`).

A loop, a `with` or a call binds nothing outside of itself, so behind such a block the scope is what it
was in front of it (`IsBlock.exists_captureIn`), and what follows is closed as if the block were not there
(`captureText_block`).
-/
import ComponentTags.Proofs.Names
import ComponentTags.Proofs.Scope.Joined

namespace ComponentTags

open Delimiters (standard)
open ComponentTags.Span (enclosed)

/-! ### Frames -/

namespace Scope

variable (s : Scope) (closer : Text) (names more : List Text)

@[simp] lemma bind_nil : s.bind [] = s := by
  obtain ⟨base, frames⟩ := s
  cases frames <;> simp [bind]

@[simp] lemma bind_bind : (s.bind names).bind more = s.bind (names ++ more) := by
  obtain ⟨base, frames⟩ := s
  cases frames <;> simp [bind]

lemma push_bind : (s.push closer names).bind more = s.push closer (names ++ more) := rfl

end Scope

/-! ### Statements that open and close blocks -/

/-- The first word of a piece that is a statement. -/
def Piece.tag? : Piece → Option Text
  | .span .statement text =>
    (statementTag? (tokens (Span.split standard .statement text).body)).map Prod.fst
  | _ => none

/-- The statement that closes the block that a piece opens. -/
def Piece.closer? (piece : Piece) : Option Text := piece.tag?.bind Scope.closerOf?

/-- Blocks are properly nested: every statement that opens one is followed by the statement that closes
it, and the blocks between them are properly nested, too. -/
inductive Nested : List Piece → Prop
  | nil : Nested []
  /-- A piece that neither opens nor closes a block. -/
  | cons {piece : Piece} {rest : List Piece} (hopens : piece.closer? = none)
      (hcloses : ∀ tag, piece.tag? = some tag → tag ∉ Scope.closers) (next : Nested rest) :
      Nested (piece :: rest)
  /-- A block. -/
  | block {first last : Piece} {inner rest : List Piece} {closer : Text}
      (hfirst : first.closer? = some closer) (hinner : Nested inner)
      (hlast : last.tag? = some closer) (next : Nested rest) :
      Nested (first :: (inner ++ last :: rest))

variable {piece : Piece} {s : Scope} {tag closer : Text}

/-- What a piece does to the scope if it is a statement with a first word. -/
lemma scope_capturePiece (htag : piece.tag? = some tag) (s : Scope) :
    ∃ ts rest, statementTag? ts = some (tag, rest) ∧
      (capturePiece standard s piece).scope = s.afterStatement ts := by
  match piece, htag with
  | .span .statement text, htag =>
    obtain ⟨⟨tag', rest⟩, hstatement, rfl⟩ := Option.map_eq_some_iff.mp htag
    exact ⟨_, rest, hstatement, rfl⟩

/-- A piece without a first word leaves the scope alone. -/
lemma scope_capturePiece_of_none (htag : piece.tag? = none) (s : Scope) :
    (capturePiece standard s piece).scope = s := by
  match piece, htag with
  | .verbatim _, _ => rfl
  | .span .expression _, _ => rfl
  | .span .comment _, _ => rfl
  | .span .statement text, htag =>
    have hstatement := Option.map_eq_none_iff.mp htag
    change s.afterStatement _ = s
    rw [Scope.afterStatement, hstatement]

/-- A piece that opens no block and closes none only binds names. -/
lemma exists_scope_of_other (hopens : piece.closer? = none)
    (hcloses : ∀ tag, piece.tag? = some tag → tag ∉ Scope.closers) (s : Scope) :
    ∃ names, (capturePiece standard s piece).scope = s.bind names := by
  cases htag : piece.tag? with
  | none => exact ⟨[], by rw [scope_capturePiece_of_none htag, Scope.bind_nil]⟩
  | some tag =>
    obtain ⟨ts, rest, hstatement, hscope⟩ := scope_capturePiece htag s
    rw [Piece.closer?, htag, Option.bind_some] at hopens
    have hmacro : tag ≠ "macro" := by
      rintro rfl
      cases hopens
    refine ⟨bindingsOf tag rest, ?_⟩
    rw [hscope, Scope.afterStatement, hstatement]
    simp only [hopens, hmacro, if_false]
    rw [if_neg (by simpa using hcloses tag htag)]

/-- A statement that opens a block adds a frame for it.  Only a macro is bound outside of its block. -/
lemma exists_scope_of_opens (htag : piece.tag? = some tag) (hcloser : Scope.closerOf? tag = some closer)
    (s : Scope) :
    ∃ outer names, (capturePiece standard s piece).scope = (s.bind outer).push closer names ∧
      (tag ≠ "macro" → outer = []) := by
  obtain ⟨ts, rest, hstatement, hscope⟩ := scope_capturePiece htag s
  refine ⟨if tag = "macro" then namesOf (rest.take 1) else [], bindingsOf tag rest, ?_, fun h => if_neg h⟩
  rw [hscope, Scope.afterStatement, hstatement]
  simp only [hcloser]
  split
  · rfl
  · rw [Scope.bind_nil]

/-- No statement both opens and closes a block. -/
lemma closerOf?_of_closer (h : Scope.closerOf? tag = some closer) :
    closer ∈ Scope.closers ∧ Scope.closerOf? closer = none ∧ closer ≠ "macro" := by
  unfold Scope.closerOf? at h
  split at h
  · cases h
    decide
  split at h
  · cases h
    decide
  split at h
  · cases h
    decide
  split at h
  · cases h
    decide
  · cases h

/-- A statement that closes a block takes the frame of the block away. -/
lemma scope_of_closes (hcloser : Scope.closerOf? tag = some closer) (hlast : piece.tag? = some closer)
    (s : Scope) (names : List Text) :
    (capturePiece standard (s.push closer names) piece).scope = s := by
  obtain ⟨hmem, hopens, hmacro⟩ := closerOf?_of_closer hcloser
  obtain ⟨ts, rest, hstatement, hscope⟩ := scope_capturePiece hlast (s.push closer names)
  rw [hscope, Scope.afterStatement, hstatement]
  simp only [hopens, hmacro, if_false]
  rw [if_pos (by simpa using hmem), Scope.pop_push]

/-! ### Properly nested pieces -/

/-- Properly nested pieces only bind names in the innermost frame. -/
theorem Nested.exists_scope {ps : List Piece} (h : Nested ps) (s : Scope) :
    ∃ names, (capturePieces standard s ps).scope = s.bind names := by
  induction h generalizing s with
  | nil => exact ⟨[], (s.bind_nil).symm⟩
  | @cons piece rest hopens hcloses _ ih =>
    obtain ⟨names, hscope⟩ := exists_scope_of_other hopens hcloses s
    obtain ⟨more, hrest⟩ := ih (s.bind names)
    refine ⟨names ++ more, ?_⟩
    rw [capturePieces, hscope, hrest, Scope.bind_bind]
  | @block first last inner rest closer hfirst _ hlast _ ihInner ihRest =>
    obtain ⟨tag, htag, hcloser⟩ := Option.bind_eq_some_iff.mp hfirst
    obtain ⟨outer, names, hscope, -⟩ := exists_scope_of_opens htag hcloser s
    obtain ⟨more, hinner⟩ := ihInner ((s.bind outer).push closer names)
    obtain ⟨others, hrest⟩ := ihRest (s.bind outer)
    refine ⟨outer ++ others, ?_⟩
    -- the frame of the block is on top again when the block is closed
    rw [capturePieces, hscope, capturePieces_append, Captured.append, capturePieces, hinner,
      Scope.push_bind, scope_of_closes hcloser hlast, hrest, Scope.bind_bind]

/-! ### Checking that blocks are nested -/

/-- Whether some pieces close the blocks that are open, the innermost first, and those they open themselves.
An open block is given by the statement that closes it. -/
def closesInOrder : List Text → List Piece → Bool
  | opened, [] => opened.isEmpty
  | opened, piece :: rest =>
    match piece.closer? with
    | some closer => closesInOrder (closer :: opened) rest
    | none =>
      if piece.tag?.any Scope.closers.contains then
        opened.head? = piece.tag? && closesInOrder opened.tail rest
      else closesInOrder opened rest

/-- The pieces of a text with some blocks open, each closed behind properly nested pieces. -/
def Closes : List Text → List Piece → Prop
  | [], ps => Nested ps
  | closer :: opened, ps => ∃ inner last rest, ps = inner ++ last :: rest ∧ Nested inner ∧
      last.tag? = some closer ∧ Closes opened rest

variable {ps inner rest : List Piece} {last : Piece} {opened : List Text}

lemma any_closers_iff :
    piece.tag?.any Scope.closers.contains = true ↔ ∃ tag, piece.tag? = some tag ∧ tag ∈ Scope.closers := by
  cases piece.tag? <;> simp

/-- Properly nested pieces may stand in front of the pieces that close what is open. -/
lemma Closes.cons (hopens : piece.closer? = none)
    (hcloses : ∀ tag, piece.tag? = some tag → tag ∉ Scope.closers) (h : Closes opened ps) :
    Closes opened (piece :: ps) := by
  cases opened with
  | nil => exact Nested.cons hopens hcloses h
  | cons c opened =>
    obtain ⟨inner, last, rest, rfl, hinner, hlast, hrest⟩ := h
    exact ⟨piece :: inner, last, rest, rfl, .cons hopens hcloses hinner, hlast, hrest⟩

lemma Closes.block (hfirst : piece.closer? = some closer) (hinner : Nested inner)
    (hlast : last.tag? = some closer) (h : Closes opened ps) :
    Closes opened (piece :: (inner ++ last :: ps)) := by
  cases opened with
  | nil => exact Nested.block hfirst hinner hlast h
  | cons c opened =>
    obtain ⟨more, last', rest, rfl, hmore, hlast', hrest⟩ := h
    exact ⟨piece :: (inner ++ last :: more), last', rest, by simp, .block hfirst hinner hlast hmore,
      hlast', hrest⟩

lemma closes_of_closesInOrder (h : closesInOrder opened ps = true) : Closes opened ps := by
  induction ps generalizing opened with
  | nil =>
    obtain rfl : opened = [] := by simpa [closesInOrder] using h
    exact Nested.nil
  | cons piece ps ih =>
    rw [closesInOrder] at h
    split at h
    · rename_i closer hfirst
      obtain ⟨inner, last, rest, rfl, hinner, hlast, hrest⟩ := ih h
      exact hrest.block hfirst hinner hlast
    · rename_i hopens
      split at h
      · rename_i hcloses
        obtain ⟨tag, htag, -⟩ := any_closers_iff.mp hcloses
        rw [htag] at h
        cases opened with
        | nil => simp at h
        | cons c opened =>
          simp only [List.head?_cons, Option.some.injEq, Bool.and_eq_true, decide_eq_true_eq,
            List.tail_cons] at h
          obtain ⟨rfl, h⟩ := h
          exact ⟨[], piece, ps, rfl, .nil, htag, ih h⟩
      · rename_i hcloses
        exact (ih h).cons hopens fun tag htag hmem => hcloses (any_closers_iff.mpr ⟨tag, htag, hmem⟩)

/-- Properly nested pieces close what they open and nothing else. -/
lemma Nested.closesInOrder_append (h : Nested ps) (opened : List Text) (rest : List Piece) :
    closesInOrder opened (ps ++ rest) = closesInOrder opened rest := by
  induction h generalizing opened rest with
  | nil => rfl
  | @cons piece ps hopens hcloses _ ih =>
    have hno : ¬piece.tag?.any Scope.closers.contains = true := by
      intro hany
      obtain ⟨tag, htag, hmem⟩ := any_closers_iff.mp hany
      exact hcloses tag htag hmem
    rw [List.cons_append, closesInOrder, hopens]
    simp only [if_neg hno, ih]
  | @block first last inner ps closer hfirst _ hlast _ ihInner ihRest =>
    obtain ⟨tag, -, hcloser⟩ := Option.bind_eq_some_iff.mp hfirst
    obtain ⟨hmem, hopens, -⟩ := closerOf?_of_closer hcloser
    have hlast' : last.closer? = none := by rw [Piece.closer?, hlast, Option.bind_some, hopens]
    have hclose : ∀ qs, closesInOrder (closer :: opened) (last :: qs) = closesInOrder opened qs := by
      intro qs
      rw [closesInOrder, hlast']
      simp only [if_pos (any_closers_iff.mpr ⟨closer, hlast, hmem⟩)]
      rw [hlast, List.head?_cons, List.tail_cons, decide_eq_true rfl, Bool.true_and]
    rw [List.cons_append, closesInOrder, hfirst, List.append_assoc]
    simp only [ihInner, List.cons_append, hclose, ihRest]

theorem nested_iff : Nested ps ↔ closesInOrder [] ps = true := by
  constructor
  · intro h
    have hclosed := h.closesInOrder_append [] []
    rwa [List.append_nil] at hclosed
  · exact closes_of_closesInOrder

instance (ps : List Piece) : Decidable (Nested ps) := decidable_of_iff _ nested_iff.symm

/-! ### Blocks -/

/-- A text is a loop, a `with` or a call from its first piece to its last, with properly nested blocks in
between. -/
def IsBlock (text : Text) : Prop :=
  ∃ first inner last tag closer, Splits text (first :: (inner ++ [last])) ∧ Nested inner ∧
    tag ∈ (["for", "with", "call"] : List Text) ∧ Scope.closerOf? tag = some closer ∧
    first.tag? = some tag ∧ last.tag? = some closer

/-- The last character of a span is a brace. -/
lemma getLast?_enclosed (kind : SpanKind) (inside : Text) :
    (enclosed kind inside).getLast? = some '\x7d' := by
  rw [enclosed, List.getLast?_append, List.getLast?_append]
  cases kind <;> rfl

/-- A text whose last piece is a statement ends with a brace. -/
lemma getLast?_of_splits {text : Text} {ps : List Piece} {last : Piece} (h : Splits text ps)
    (hlast : ps.getLast? = some last) (htag : last.tag? ≠ none) : text.getLast? = some '\x7d' := by
  induction h with
  | nil => cases hlast
  | @character c rest ps _ _ ih =>
    obtain rfl | ⟨q, qs, rfl⟩ : ps = [] ∨ ∃ q qs, ps = q :: qs := by cases ps <;> simp
    · cases hlast
      exact absurd rfl htag
    · rw [List.getLast?_cons_cons] at hlast
      rw [← List.singleton_append, List.getLast?_append, ih hlast, Option.some_or]
  | @skipped kind span rest ps _ _ _ ih =>
    obtain rfl | ⟨q, qs, rfl⟩ : ps = [] ∨ ∃ q qs, ps = q :: qs := by cases ps <;> simp
    · cases hlast
      exact absurd rfl htag
    · rw [List.getLast?_cons_cons] at hlast
      rw [List.getLast?_append, ih hlast, Option.some_or]
  | @span kind inside rest ps _ _ next ih =>
    rw [List.getLast?_append]
    obtain rfl | ⟨q, qs, rfl⟩ : ps = [] ∨ ∃ q qs, ps = q :: qs := by cases ps <;> simp
    · cases next
      exact getLast?_enclosed kind inside
    · rw [List.getLast?_cons_cons] at hlast
      rw [ih hlast, Option.some_or]

/-- A block leaves the scope as it was in front of the block. -/
theorem IsBlock.exists_captureIn {block : Text} (h : IsBlock block) (s : Scope) :
    ∃ r, captureIn standard s block = .ok r ∧ r.scope = s := by
  obtain ⟨first, inner, last, tag, closer, hsplits, hinner, hmem, hcloser, hfirst, hlast⟩ := h
  refine ⟨_, captureIn_eq_ok_iff.mpr ⟨_, hsplits, rfl⟩, ?_⟩
  have hmacro : tag ≠ "macro" := by
    rintro rfl
    revert hmem
    decide
  obtain ⟨outer, names, hscope, houter⟩ := exists_scope_of_opens hfirst hcloser s
  rw [houter hmacro, Scope.bind_nil] at hscope
  obtain ⟨more, hmore⟩ := hinner.exists_scope (s.push closer names)
  rw [capturePieces, hscope, capturePieces_append, Captured.append, capturePieces, capturePieces,
    hmore, Scope.push_bind, scope_of_closes hcloser hlast]

/-- What is bound in a block is bound in the block only.  A text behind a block is closed as if the block
were not there: the two are closed one by one, and the names captured in the block are named first.
In whatever scope the block stands, that is the scope behind it, too. -/
theorem captureText_block {block rest text : Text} {bound captured : List Text} (hblock : IsBlock block)
    (hrest : captureText rest bound = .ok (text, captured)) :
    (∃ closed inBlock, captureText block bound = .ok (closed, inBlock) ∧
      captureText (block ++ rest) bound =
        .ok (closed ++ text, inBlock ++ captured.filter fun name => name ∉ inBlock)) ∧
    ∀ s, ∃ r, captureIn standard s block = .ok r ∧ r.scope = s := by
  refine ⟨?_, hblock.exists_captureIn⟩
  obtain ⟨more, hmore, rfl, rfl⟩ := captureText_eq_ok_iff.mp hrest
  obtain ⟨r, hr, hscope⟩ := hblock.exists_captureIn ⟨bound, []⟩
  refine ⟨_, _, captureText_eq_ok_iff.mpr ⟨r, hr, rfl, rfl⟩, captureText_eq_ok_iff.mpr ?_⟩
  have hbrace : block.getLast? ≠ some '\x7b' := by
    obtain ⟨first, inner, last, tag, closer, hsplits, -, -, -, -, hlast⟩ := hblock
    have hend : (first :: (inner ++ [last])).getLast? = some last := by
      rw [← List.cons_append, List.getLast?_concat]
    rw [getLast?_of_splits hsplits hend (by rw [hlast]; simp)]
    decide
  rw [← hscope] at hmore
  exact ⟨_, (captureIn_append hr hbrace).mpr ⟨more, hmore, rfl⟩, rfl, (eraseDups_append _ _).symm⟩

/-- A loop that sets a variable and defines a macro. -/
def rowsBlock : Text :=
  "\x7b% for x in xs %\x7d\x7b% set y = x %\x7d\x7b% macro row(a) %\x7d" ++
    "\x7b\x7b a ~ y \x7d\x7d\x7b% endmacro %\x7d\x7b% endfor %\x7d"

lemma isBlock_rowsBlock : IsBlock rowsBlock := by
  refine ⟨.span .statement "\x7b% for x in xs %\x7d",
    [.span .statement "\x7b% set y = x %\x7d", .span .statement "\x7b% macro row(a) %\x7d",
      .span .expression "\x7b\x7b a ~ y \x7d\x7d", .span .statement "\x7b% endmacro %\x7d"],
    .span .statement "\x7b% endfor %\x7d", "for", "endfor", ?_, by decide +kernel, by decide, rfl, ?_, ?_⟩
  · exact (@pieces_eq_ok_iff 0 _ _).mp (by with_unfolding_all rfl)
  · with_unfolding_all rfl
  · with_unfolding_all rfl

/-- What stands behind the block reads the names that are bound in it from the context. -/
def behindRows : Text := "\x7b\x7b row(x, xs, y, v) \x7d\x7d"

/-- The text behind the block, closed. -/
def behindRowsClosed : Text :=
  "\x7b\x7b glam__ctx.locals[\"row\"](glam__ctx.locals[\"x\"], glam__ctx.locals[\"xs\"], " ++
    "glam__ctx.locals[\"y\"], v) \x7d\x7d"

theorem captureText_block_rows :
    IsBlock rowsBlock ∧ captureText behindRows ["v"] = .ok (behindRowsClosed, ["row", "x", "xs", "y"]) ∧
      ∃ closed, captureText rowsBlock ["v"] = .ok (closed, ["xs"]) ∧
        captureText (rowsBlock ++ behindRows) ["v"] =
          .ok (closed ++ behindRowsClosed, ["xs", "row", "x", "y"]) := by
  have hrest : captureText behindRows ["v"] = .ok (behindRowsClosed, ["row", "x", "xs", "y"]) := by
    with_unfolding_all rfl
  have hinside : (captureText rowsBlock ["v"]).map Prod.snd = .ok ["xs"] := by
    with_unfolding_all rfl
  obtain ⟨⟨closed, inBlock, hblock, hwhole⟩, -⟩ := captureText_block isBlock_rowsBlock hrest
  rw [hblock] at hinside
  obtain rfl : inBlock = (["xs"] : List Text) := Except.ok.inj hinside
  have hnames : ((["xs"] : List Text) ++
      (["row", "x", "xs", "y"] : List Text).filter fun name => name ∉ (["xs"] : List Text)) =
        (["xs", "row", "x", "y"] : List Text) := by
    decide
  rw [hnames] at hwhole
  exact ⟨isBlock_rowsBlock, hrest, closed, hblock, hwhole⟩

end ComponentTags
