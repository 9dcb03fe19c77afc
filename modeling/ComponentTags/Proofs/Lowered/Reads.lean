/-
# What is read from the context

Content runs with a context, and the variables that it takes from around it are read there.  What a text
reads from the context is said by its tokens (`Reads`): in a text of the content by those of its spans,
in the value of an attribute by those of its expressions.  In a text with no reserved names, closing puts
the only look-ups there are, so every variable that the closed text reads is one of the captured names
(`mem_captured_of_reads`).
-/
import ComponentTags.Lowered.Basic
import ComponentTags.Proofs.Scope.Closed

namespace ComponentTags

open Delimiters (standard)

/-! ### Reading a captured variable -/

/-- The tokens by which a captured variable is read. -/
def captureTokens (name : Text) : List Token :=
  [⟨.name, contextName⟩, ⟨.sign, ['.']⟩, ⟨.name, "locals"⟩, ⟨.sign, ['[']⟩,
    ⟨.string, '"' :: (name ++ ['"'])⟩, ⟨.sign, [']']⟩]

/-- Some tokens read a captured variable. -/
def Reads (ts : List Token) (name : Text) : Prop := captureTokens name <:+: significant ts

/-- A part of the body of a block reads a captured variable. -/
inductive Item.Reads : Item → Text → Prop
  /-- In an expression or a statement of a text. -/
  | span {content : Text} {ps : List Piece} {kind : SpanKind} {span name : Text}
      (hpieces : pieces standard 0 content = .ok ps) (hspan : .span kind span ∈ ps)
      (hreads : ComponentTags.Reads (tokens (Span.split standard kind span).body) name) :
      Item.Reads (.text content) name
  /-- In an expression of the value of an attribute. -/
  | value {c : Call} {key : Text} {parts : List ValuePart} {expression name : Text}
      (hentry : (key, parts) ∈ c.attributes) (hpart : .expression expression ∈ parts)
      (hreads : ComponentTags.Reads (tokens expression) name) : Item.Reads (.call c) name

/-- A block reads a captured variable. -/
def Block.Reads (b : Block) (name : Text) : Prop := ∃ item ∈ b.body, item.Reads name

/-! ### Names that are not reserved -/

/-- None of the names among some tokens is reserved. -/
def Unreserved (ts : List Token) : Prop := ∀ t ∈ ts, t.isName = true → isReserved t.text = false

/-- No name in a span of a text is reserved. -/
def UnreservedText (text : Text) : Prop :=
  ∀ ps, pieces standard 0 text = .ok ps → ∀ kind span, .span kind span ∈ ps →
    Unreserved (tokens (Span.split standard kind span).body)

variable {name : Text} {marked : List (Token × Bool)}

/-- What reads a captured variable begins with the name of the context. -/
lemma infix_append_of_forall_ne {us ts : List Token} (hne : ∀ t ∈ us, t ≠ ⟨.name, contextName⟩)
    (h : captureTokens name <:+: us ++ ts) : captureTokens name <:+: ts := by
  induction us with
  | nil => exact h
  | cons u us ih =>
    obtain hbegins | hinfix := List.infix_cons_iff.mp h
    · exact absurd (List.cons_prefix_cons.mp hbegins).1.symm (hne u (.head _))
    · exact ih (fun t ht => hne t (.tail _ ht)) hinfix

/-- A look-up begins with the name of the context and does not have it again. -/
lemma exists_lookupTokens_eq (name : Text) :
    ∃ more, lookupTokens name = ⟨.name, contextName⟩ :: more ∧
      ∀ t ∈ more, t ≠ ⟨.name, contextName⟩ := by
  have hne : ∀ word ∈ [("dot" : Text), ("root" : Text), ("locals" : Text)],
      (⟨.name, word⟩ : Token) ≠ ⟨.name, contextName⟩ := fun word hword heq => by
    rw [(Token.mk.inj heq).2] at hword
    exact absurd hword (by decide)
  unfold lookupTokens
  split
  · refine ⟨_, rfl, fun t ht => ?_⟩
    simp only [List.mem_cons, List.not_mem_nil, or_false] at ht
    rcases ht with rfl | rfl
    · simp
    · exact hne _ (by simp)
  split
  · refine ⟨_, rfl, fun t ht => ?_⟩
    simp only [List.mem_cons, List.not_mem_nil, or_false] at ht
    rcases ht with rfl | rfl
    · simp
    · exact hne _ (by simp)
  · refine ⟨_, rfl, fun t ht => ?_⟩
    simp only [List.mem_cons, List.not_mem_nil, or_false] at ht
    rcases ht with rfl | rfl | rfl | rfl | rfl
    · simp
    · exact hne _ (by simp)
    · simp
    · simp
    · simp

/-- A look-up that goes on like a captured variable stands for that variable. -/
lemma eq_of_lookupTokens_eq {other : Text} {ts us : List Token}
    (h : ⟨.name, contextName⟩ :: ⟨.sign, ['.']⟩ :: ⟨.name, "locals"⟩ :: ⟨.sign, ['[']⟩ ::
      ⟨.string, '"' :: (name ++ ['"'])⟩ :: us = lookupTokens other ++ ts) :
    isCaptured other = true ∧ name = other := by
  unfold lookupTokens at h
  split at h
  · simp at h
  rename_i hthis
  split at h
  · simp at h
  rename_i hroot
  simp only [List.cons_append, List.cons.injEq, Token.mk.injEq, true_and,
    List.append_cancel_right_eq] at h
  exact ⟨by simp [isCaptured, hthis, hroot], h.1⟩

/-- A look-up reads nothing but the variable that it stands for. -/
lemma infix_lookupTokens {other : Text} {ts : List Token}
    (h : captureTokens name <:+: lookupTokens other ++ ts) :
    isCaptured other = true ∧ name = other ∨ captureTokens name <:+: ts := by
  obtain ⟨more, hlookup, hmore⟩ := exists_lookupTokens_eq other
  rw [hlookup, List.cons_append] at h
  obtain ⟨us, hus⟩ | hinfix := List.infix_cons_iff.mp h
  · rw [← List.cons_append, ← hlookup] at hus
    exact .inl (eq_of_lookupTokens_eq hus)
  · exact .inr (infix_append_of_forall_ne hmore hinfix)

/-- Of replaced tokens only the look-ups read captured variables. -/
lemma mem_captured_of_infix (hno : Unreserved (marked.map Prod.fst))
    (h : captureTokens name <:+: marked.flatMap expanded) : name ∈ capturedNames marked := by
  induction marked with
  | nil => simp [captureTokens] at h
  | cons m rest ih =>
    obtain ⟨t, free⟩ := m
    have hno' : Unreserved (rest.map Prod.fst) := fun u hu => hno u (by simp [hu])
    rw [List.flatMap_cons] at h
    rw [← List.singleton_append, capturedNames_append, List.mem_append]
    cases free with
    | false =>
      -- the look-up begins with a reserved name, and no token of the text is one
      refine .inr (ih hno' (infix_append_of_forall_ne ?_ h))
      rintro u (_ | ⟨_, ⟨⟩⟩) rfl
      exact absurd (hno ⟨.name, contextName⟩ (by simp) rfl) (by decide)
    | true =>
      obtain ⟨hcaptured, rfl⟩ | hinfix := infix_lookupTokens h
      · exact .inl (by simp [capturedNames, hcaptured])
      · exact .inr (ih hno' hinfix)

/-- What the tokens of a closed span read is captured. -/
lemma mem_captured_of_reads_span {scope : Scope} {kind : SpanKind} {body : Text}
    (hno : Unreserved (tokens body))
    (h : Reads (tokens (replacedText (markSpan scope kind body))) name) :
    name ∈ capturedNames (markSpan scope kind body) := by
  have hmarked := variablesMarked_markSpan scope kind body
  have hmap := markSpan_tokens scope kind body
  rw [Reads, tokens_replacedText (hmap ▸ lexed_tokens body) hmarked.namesMarked,
    significant_expanded hmarked] at h
  have hsub : ∀ m ∈ significantMarks (markSpan scope kind body), m ∈ markSpan scope kind body :=
    fun m hm => (List.mem_filter.mp hm).1
  have hmem := mem_captured_of_infix (fun t ht => ?_) h
  · obtain ⟨m, hm, rfl⟩ := List.mem_map.mp hmem
    obtain ⟨hm, hcaptured⟩ := List.mem_filter.mp hm
    exact List.mem_map.mpr ⟨m, List.mem_filter.mpr ⟨hsub m hm, hcaptured⟩, rfl⟩
  · obtain ⟨m, hm, rfl⟩ := List.mem_map.mp ht
    exact hno m.1 (hmap ▸ List.mem_map_of_mem (hsub m hm))

/-- What the spans of a closed text read is captured. -/
lemma mem_captured_of_reads_pieces {text : Text} {ps : List Piece} {s : Scope}
    (hsplits : Splits text ps)
    (hno : ∀ kind span, .span kind span ∈ ps → Unreserved (tokens (Span.split standard kind span).body))
    {kind : SpanKind} {span : Text} (hspan : .span kind span ∈ closedPieces s ps)
    (h : Reads (tokens (Span.split standard kind span).body) name) :
    name ∈ (capturePieces standard s ps).captured := by
  induction hsplits generalizing s with
  | nil => cases hspan
  | character _ _ ih =>
    obtain heq | hspan := List.mem_cons.mp hspan
    · cases heq
    · exact ih (fun kind span hmem => hno kind span (.tail _ hmem)) hspan
  | skipped _ _ _ ih =>
    obtain heq | hspan := List.mem_cons.mp hspan
    · cases heq
    · exact ih (fun kind span hmem => hno kind span (.tail _ hmem)) hspan
  | @span kind' inside rest ps hinside hnot _ ih =>
    obtain ⟨front, body, back, rfl, hsigned⟩ := exists_signed inside
    simp only [closedPieces, capturePiece_enclosed _ hsigned, List.mem_cons] at hspan
    simp only [capturePieces, capturePiece_enclosed _ hsigned, List.mem_append]
    obtain heq | hspan := hspan
    · obtain ⟨rfl, rfl⟩ := Piece.span.inj heq
      obtain ⟨-, hsigned', -⟩ := span_replaced hinside hsigned hnot s [] rfl
      rw [map_without_nil] at hsigned'
      rw [split_enclosed _ hsigned'] at h
      have hbody := hno kind _ (.head _)
      rw [split_enclosed _ hsigned] at hbody
      exact .inl (mem_captured_of_reads_span hbody h)
    · exact .inr (ih (fun kind span hmem => hno kind span (.tail _ hmem)) hspan)

/-- What a closed text reads is captured. -/
lemma mem_captured_of_reads {s : Scope} {text : Text} {r : Captured} (hno : UnreservedText text)
    (hr : captureIn standard s text = .ok r) (h : (Item.text r.text).Reads name) :
    name ∈ r.captured := by
  unfold captureIn at hr
  split at hr
  · cases hr
  rename_i ps hps
  cases hr
  have hsplits := pieces_eq_ok_iff.mp hps
  cases h with
  | span hpieces hspan hreads =>
    rw [pieces_eq_ok_iff.mpr (splits_closedPieces hsplits s)] at hpieces
    cases hpieces
    exact mem_captured_of_reads_pieces hsplits (hno ps hps) hspan hreads

end ComponentTags
