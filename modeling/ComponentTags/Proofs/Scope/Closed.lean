/-
# The pieces of a closed text

A text whose free variables are replaced falls into the same pieces as before: a comment or a raw block
is not touched, and a span in which variables are replaced is a span again, with the same control signs
and with the same tokens but for the look-ups (`span_replaced`, `tokens_replaced`).  The pieces of the
closed text are listed by `closedPieces` (`splits_closedPieces`).
-/
import ComponentTags.Proofs.Scope.Marks
import ComponentTags.Proofs.Scope.Replaced

namespace ComponentTags

open Delimiters (standard)
open ComponentTags.Span (Inside Whole IsSkipped enclosed)

/-! ### The first word of a statement -/

/-- The word that begins what is inside a statement, without a sign in front of it. -/
lemma firstWord_signed {front body back : Text} (h : Signed front body back) :
    Span.firstWord (front ++ (body ++ back)) =
      ((body ++ back).dropWhile Text.isBlank).takeWhile Text.isWordChar := by
  unfold Span.firstWord
  congr 2
  obtain ⟨rfl, hhead⟩ | ⟨c, hc, rfl⟩ := h.front_eq
  · cases body with
    | nil => rw [h.back_nil rfl rfl]; rfl
    | cons c body =>
      simp only [List.nil_append, List.cons_append, Span.dropControlSign]
      rw [if_neg (by simpa using hhead)]
  · simp only [List.cons_append, List.nil_append, Span.dropControlSign, hc, if_true]

section

variable {t : Token} {rest : List Token} {word back : Text} {c : Char}

lemma statementTag?_cons_eq_some_iff {tail : List Token} (h : t.isSignificant = true) :
    statementTag? (t :: rest) = some (word, tail) ↔ t.isName = true ∧ word = t.text ∧ tail = significant rest := by
  simp only [statementTag?, significant, List.filter_cons, h, if_true]
  split
  · next hname => simp [hname, eq_comm]
  · next hname => simp [hname]

/-- A name is taken as a whole. -/
lemma takeWhile_of_isName (hend : t.EndsBefore (rest.flatMap Token.text)) (hname : t.isName = true)
    (hback : back.head?.any (fun c => Text.isBlank c || Text.isWordChar c) = false) :
    (t.text ++ (rest.flatMap Token.text ++ back)).takeWhile Text.isWordChar = t.text := by
  have hword := isWord_of_endsBefore hend hname
  have hkind : t.kind = .name := by simpa [Token.isName] using hname
  have hend' : Token.EndsBefore ⟨.name, t.text⟩ (rest.flatMap Token.text) := hkind ▸ hend
  have hno := (endsBefore_name_iff hword).mp hend'
  have htake : (rest.flatMap Token.text ++ back).takeWhile Text.isWordChar = [] := by
    cases hrest : rest.flatMap Token.text with
    | nil =>
      cases back with
      | nil => rfl
      | cons x back =>
        have hx := (Bool.or_eq_false_iff.mp hback).2
        exact List.takeWhile_cons_of_neg (by simpa using hx)
    | cons x more =>
      rw [hrest] at hno
      exact List.takeWhile_cons_of_neg (by simpa using hno)
  rw [List.takeWhile_append_of_pos hword.isWordChar, htake, List.append_nil]

/-- No other token begins like a word. -/
lemma not_startsName_of_not_isName {behind more : Text} (hend : t.EndsBefore behind) (htext : t.text = c :: more)
    (hname : ¬t.isName = true) : ¬startsName c := by
  intro hstart
  obtain ⟨x, more', htext', hshape⟩ := hend
  rw [htext, List.cons.injEq] at htext'
  rw [← htext'.1, shape_name hstart, Prod.mk.injEq] at hshape
  exact hname (by simp [Token.isName, ← hshape.1])

end

/-- The first word of a statement is the name that comes first among the significant tokens. -/
lemma firstWord_eq_iff {ts : List Token} {word back : Text} (hlexed : Lexed ts) (hword : IsWord word)
    (hback : back.head?.any (fun c => Text.isBlank c || Text.isWordChar c) = false) :
    ((ts.flatMap Token.text ++ back).dropWhile Text.isBlank).takeWhile Text.isWordChar = word ↔
      ∃ rest, statementTag? ts = some (word, rest) := by
  have hne : word ≠ [] := by
    cases hword
    simp
  induction hlexed with
  | nil =>
    have hnone : ((List.flatMap Token.text [] ++ back).dropWhile Text.isBlank).takeWhile
        Text.isWordChar = [] := by
      cases back with
      | nil => rfl
      | cons c back =>
        obtain ⟨hblank, hno⟩ := Bool.or_eq_false_iff.mp hback
        simp [hblank, hno]
    rw [hnone]
    exact ⟨fun h => absurd h.symm hne, fun ⟨_, h⟩ => by cases h⟩
  | @cons t rest hend hlexed ih =>
    rw [List.flatMap_cons, List.append_assoc]
    obtain ⟨hblank, hall⟩ | ⟨hsignificant, c, more, htext, hc⟩ := isBlank_iff_of_endsBefore hend
    · have htag : statementTag? (t :: rest) = statementTag? rest := by
        simp [statementTag?, significant, hblank]
      rw [List.dropWhile_append_of_pos hall, htag]
      exact ih
    · have hdrop : (t.text ++ (rest.flatMap Token.text ++ back)).dropWhile Text.isBlank =
          t.text ++ (rest.flatMap Token.text ++ back) := by
        simp [htext, hc]
      simp only [statementTag?_cons_eq_some_iff hsignificant, hdrop, exists_and_left, exists_eq, and_true]
      by_cases hname : t.isName = true
      · rw [takeWhile_of_isName hend hname hback]
        simp [hname, eq_comm]
      · have hno := not_startsName_of_not_isName hend htext hname
        refine ⟨fun heq => ?_, fun h => absurd h.1 hname⟩
        cases hword with
        | intro hstart _ =>
          rw [htext, List.cons_append, List.takeWhile_cons] at heq
          split at heq
          · exact absurd ((List.cons.inj heq).1 ▸ hstart) hno
          · cases heq

/-! ### Spans -/

variable {kind : SpanKind} {front body back : Text}

lemma capturedNames_append (a b : List (Token × Bool)) :
    capturedNames (a ++ b) = capturedNames a ++ capturedNames b := by
  simp [capturedNames]

lemma capturedNames_kept (ts : List Token) : capturedNames (ts.map (·, false)) = [] := by
  simp [capturedNames]

lemma markSpan_tokens (scope : Scope) (kind : SpanKind) (body : Text) :
    (markSpan scope kind body).map Prod.fst = tokens body := by
  unfold markSpan
  split
  · cases h : statementTag? (tokens body) with
    | none => rw [markStatement, h, markExpression, markFree_tokens]
    | some statement => rw [markStatement_eq h, markFree_tokens]
  · exact markFree_tokens _ _ _ _

lemma variablesMarked_markSpan (scope : Scope) (kind : SpanKind) (body : Text) :
    VariablesMarked (markSpan scope kind body) := by
  unfold markSpan
  split
  · cases h : statementTag? (tokens body) with
    | none =>
      rw [markStatement, h]
      exact variablesMarked_markFree
    | some statement =>
      rw [markStatement_eq h]
      exact variablesMarked_markFree
  · exact variablesMarked_markFree

/-- A span in which the free variables are replaced. -/
lemma capturePiece_enclosed (scope : Scope) (h : Signed front body back) :
    capturePiece standard scope (.span kind (enclosed kind (front ++ (body ++ back)))) =
      ⟨enclosed kind (front ++ (replacedText (markSpan scope kind body) ++ back)),
        capturedNames (markSpan scope kind body), scopeBehind scope kind body⟩ := by
  simp only [capturePiece, split_enclosed kind h]
  simp only [enclosed, List.append_assoc]

/-- The tokens of the body of a span in which free variables are replaced. -/
lemma tokens_replaced (scope : Scope) (kind : SpanKind) (body : Text) (names : List Text) :
    tokens (replacedText ((markSpan scope kind body).map (without names))) =
      ((markSpan scope kind body).map (without names)).flatMap expanded := by
  refine tokens_replacedText ?_ ((variablesMarked_markSpan scope kind body).without names).namesMarked
  rw [map_fst_without, markSpan_tokens]
  exact lexed_tokens body

/-- The marks of a span in which the free variables but some names are replaced. -/
lemma markSpan_replaced (scope : Scope) (kind : SpanKind) (body : Text) (names : List Text) :
    markSpan scope kind (replacedText ((markSpan scope kind body).map (without names))) =
      (markSpan scope kind body).flatMap (settled names) := by
  rw [markSpan, tokens_replaced]
  unfold markSpan
  split
  · exact markStatement_replaced _ _ _
  · exact markExpression_replaced _ _ _

lemma scopeBehind_replaced (scope : Scope) (kind : SpanKind) (body : Text) (names : List Text) :
    scopeBehind scope kind (replacedText ((markSpan scope kind body).map (without names))) =
      scopeBehind scope kind body := by
  rw [scopeBehind, tokens_replaced]
  unfold scopeBehind markSpan
  split
  · exact afterStatement_replaced _ _ _ _
  · rfl

/-- Replacing free variables keeps the first word of a statement. -/
lemma exists_statementTag?_replaced (bound names : List Text) (ts : List Token) (word : Text) :
    (∃ rest, statementTag? (((markStatement bound ts).map (without names)).flatMap expanded) =
      some (word, rest)) ↔ ∃ rest, statementTag? ts = some (word, rest) := by
  cases hstatement : statementTag? ts with
  | none =>
    have hexpression : markStatement bound ts = markExpression bound ts := by
      rw [markStatement, hstatement]
    rw [hexpression, statementTag?_replaced_eq_none hstatement]
  | some statement =>
    obtain ⟨tag, rest⟩ := statement
    obtain ⟨t, more, -, -, -, htag⟩ := exists_keeps hstatement bound names
    simp [htag]

lemma isPlain_of_isControlSign {c : Char} (h : Span.isControlSign c = true) : IsPlain c := by
  obtain rfl | rfl := eq_of_isControlSign h
  · exact ⟨rfl, rfl, rfl, by decide⟩
  · exact ⟨rfl, rfl, rfl, by decide⟩

lemma Signed.isPlain (h : Signed front body back) :
    (∀ c ∈ front, IsPlain c) ∧ ∀ c ∈ back, IsPlain c := by
  constructor
  · obtain ⟨rfl, -⟩ | ⟨c, hc, rfl⟩ := h.front_eq
    · simp
    · simpa using isPlain_of_isControlSign hc
  · obtain ⟨rfl, -⟩ | ⟨c, hc, rfl⟩ := h.back_eq
    · simp
    · simpa using isPlain_of_isControlSign hc

/-- Whether a statement opens a raw block is said by its first word. -/
lemma isSkipped_enclosed_iff (h : Signed front body back) :
    IsSkipped kind (enclosed kind (front ++ (body ++ back))) ↔ kind = .comment ∨
      kind = .statement ∧ ∃ rest, statementTag? (tokens body) = some (("raw" : Text), rest) := by
  refine or_congr_right (and_congr_right fun hkind => ?_)
  subst hkind
  have hraw : IsWord ("raw" : Text) :=
    ⟨⟨by decide, by decide, by decide, by decide⟩, List.all_eq_true.mp (by decide)⟩
  have hback : back.head?.any (fun c => Text.isBlank c || Text.isWordChar c) = false := by
    obtain ⟨rfl, -⟩ | ⟨c, hc, rfl⟩ := h.back_eq
    · rfl
    · obtain rfl | rfl := eq_of_isControlSign hc
      · rfl
      · rfl
  have hname := Span.statementName_enclosed (front ++ (body ++ back)) []
  rw [List.append_nil] at hname
  rw [hname, firstWord_signed h, ← firstWord_eq_iff (lexed_tokens body) hraw hback, tokens_join]

/-- A span in which free variables are replaced is a span with the same control signs. -/
lemma span_replaced (hinside : Inside (standard.stop kind) 0 (front ++ (body ++ back)))
    (hsigned : Signed front body back)
    (hnot : ¬IsSkipped kind (enclosed kind (front ++ (body ++ back)))) (scope : Scope)
    (names : List Text) {new : Text}
    (hnew : new = replacedText ((markSpan scope kind body).map (without names))) :
    Inside (standard.stop kind) 0 (front ++ (new ++ back)) ∧ Signed front new back ∧
      ¬IsSkipped kind (enclosed kind (front ++ (new ++ back))) := by
  have hstop : IsStop (standard.stop kind) := isStop_standard fun h => hnot (.inl h)
  have hmap : ((markSpan scope kind body).map (without names)).map Prod.fst = tokens body := by
    rw [map_fst_without, markSpan_tokens]
  have hlexed : Lexed (((markSpan scope kind body).map (without names)).map Prod.fst) :=
    hmap ▸ lexed_tokens body
  have hmarked := ((variablesMarked_markSpan scope kind body).without names).namesMarked
  have hbody : (((markSpan scope kind body).map (without names)).map Prod.fst).flatMap Token.text =
      body := by rw [hmap, tokens_join]
  obtain ⟨hfront, hback⟩ := hsigned.isPlain
  have hsigned' : Signed front new back := hnew ▸ (hbody.symm ▸ hsigned).replaced hlexed hmarked
  refine ⟨?_, hsigned', ?_⟩
  · rw [inside_append_iff hstop hfront, hnew]
    refine Inside.replaced hstop hlexed hmarked (fun c hc => (hback c hc).1) ?_
    rwa [hbody, ← inside_append_iff hstop hfront]
  · rw [isSkipped_enclosed_iff hsigned] at hnot
    rw [isSkipped_enclosed_iff hsigned']
    rintro (hcomment | ⟨rfl, hraw⟩)
    · exact hnot (.inl hcomment)
    · rw [hnew, tokens_replaced] at hraw
      exact hnot (.inr ⟨rfl, (exists_statementTag?_replaced _ names _ _).mp hraw⟩)

/-! ### Texts -/

/-- A text begins with the same character when it is closed. -/
lemma head?_capturePieces {text : Text} {ps : List Piece} (h : Splits text ps) (scope : Scope) :
    (capturePieces standard scope ps).text.head? = text.head? := by
  cases h with
  | nil => rfl
  | character => rfl
  | @skipped kind span rest ps hwhole =>
    have hne : span ≠ [] := by
      rintro rfl
      have hbegins := Span.kindAt?_eq_some_iff.mp (hwhole.kindAt?_eq [])
      rw [List.append_nil, List.prefix_nil] at hbegins
      cases kind <;> cases hbegins
    obtain ⟨c, span, rfl⟩ := List.exists_cons_of_ne_nil hne
    rfl
  | @span kind inside rest ps =>
    obtain ⟨front, body, back, rfl, hsigned⟩ := exists_signed inside
    simp only [capturePieces, capturePiece_enclosed _ hsigned]
    cases kind <;> rfl

/-- The pieces of a closed text, given those of the text. -/
def closedPieces (s : Scope) : List Piece → List Piece
  | [] => []
  | .verbatim text :: rest => .verbatim text :: closedPieces s rest
  | .span kind text :: rest =>
    let first := capturePiece standard s (.span kind text)
    .span kind first.text :: closedPieces first.scope rest

/-- A closed text consists of its closed pieces. -/
lemma splits_closedPieces {text : Text} {ps : List Piece} (h : Splits text ps) (s : Scope) :
    Splits (capturePieces standard s ps).text (closedPieces s ps) := by
  induction h generalizing s with
  | nil => exact .nil
  | character hkind next ih =>
    exact .character (Span.kindAt?_eq_none_of_head hkind (head?_capturePieces next s)) (ih s)
  | skipped hwhole hskip _ ih => exact .skipped hwhole hskip (ih s)
  | @span kind inside rest ps hinside hnot _ ih =>
    obtain ⟨front, body, back, rfl, hsigned⟩ := exists_signed inside
    obtain ⟨hinside', -, hnot'⟩ := span_replaced hinside hsigned hnot s [] rfl
    rw [map_without_nil] at hinside' hnot'
    simp only [capturePieces, closedPieces, capturePiece_enclosed _ hsigned]
    exact .span hinside' hnot' (ih _)

end ComponentTags
