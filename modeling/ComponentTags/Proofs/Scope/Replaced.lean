/-
# Spans of a replaced text

Replacing names by look-ups moves no boundary of a span: the closing delimiter is met where it was met
before (`Inside.replaced`), and the control signs stay the delimiters' (`Signed.replaced`).  A look-up
opens a bracket and closes it again, its string literal is closed, and it has none of the characters
that begin a closing delimiter.
-/
import ComponentTags.Proofs.Scope.Lexed
import ComponentTags.Proofs.Scope.Pieces

namespace ComponentTags

open Delimiters (standard)
open ComponentTags.Span (Inside Literal)

variable {stop front back more other : Text} {depth : Nat} {c : Char}

/-! ### Plain characters -/

/-- A character that neither opens nor closes anything and begins no closing delimiter. -/
def IsPlain (c : Char) : Prop :=
  Span.isQuote c = false ∧ Span.isOpening c = false ∧ Span.isClosing c = false ∧ c ≠ '%'

instance : DecidablePred IsPlain := fun _ => inferInstanceAs (Decidable (_ ∧ _ ∧ _ ∧ _))

lemma isPlain_of_isWordChar (h : Text.isWordChar c = true) : IsPlain c := by
  -- the other characters are no characters of a word
  have hne : ∀ x : Char, Text.isWordChar x = false → c ≠ x := by
    rintro x hx rfl
    rw [h] at hx
    cases hx
  have hother : ∀ x ∈ ['\'', '"', '(', '[', '\x7b', ')', ']', '\x7d', '%'], c ≠ x := by
    intro x hx
    refine hne x ?_
    simp only [List.mem_cons, List.not_mem_nil, or_false] at hx
    rcases hx with rfl | rfl | rfl | rfl | rfl | rfl | rfl | rfl | rfl <;> rfl
  simp only [List.mem_cons, List.not_mem_nil, or_false, forall_eq_or_imp, forall_eq] at hother
  simp [IsPlain, Span.isQuote, Span.isOpening, Span.isClosing, hother]

/-- The two closing delimiters of spans with an inside. -/
inductive IsStop : Text → Prop
  | expression : IsStop ['\x7d', '\x7d']
  | statement : IsStop ['%', '\x7d']

lemma isStop_standard {kind : SpanKind} (hkind : kind ≠ .comment) : IsStop (standard.stop kind) := by
  cases kind with
  | expression => exact .expression
  | statement => exact .statement
  | comment => exact absurd rfl hkind

/-- A closing delimiter is met at a character that begins it, in front of a closing brace. -/
lemma IsStop.prefix_iff (h : IsStop stop) {rest : Text} :
    stop <+: c :: (rest ++ stop) ↔
      stop.head? = some c ∧ (rest.head?.or stop.head?) = some '\x7d' := by
  cases h <;> cases rest <;> simp [List.cons_prefix_cons, eq_comm]

lemma IsStop.head?_ne (h : IsStop stop) (hc : IsPlain c) : stop.head? ≠ some c := by
  obtain ⟨-, -, hclosing, hpercent⟩ := hc
  cases h with
  | expression =>
    rintro ⟨⟩
    exact absurd hclosing (by decide)
  | statement =>
    rintro ⟨⟩
    exact hpercent rfl

/-- The inside of a span behind a character that is no quote. -/
lemma inside_cons_iff (hquote : Span.isQuote c = false) :
    Inside stop depth (c :: more) ↔
      (depth = 0 → ¬stop <+: c :: (more ++ stop)) ∧ Inside stop (Span.depthAfter depth c) more := by
  constructor
  · intro h
    generalize htext : c :: more = text at h
    cases h with
    | done => cases htext
    | literal hquote' => 
      cases htext
      exact absurd (hquote.symm.trans hquote') (by simp)
    | char _ hmet next =>
      cases htext
      exact ⟨hmet, next⟩
  · rintro ⟨hmet, next⟩
    exact .char hquote hmet next

/-- The inside of a span behind the opening quote of a literal. -/
lemma inside_quote_iff (hquote : Span.isQuote c = true) :
    Inside stop depth (c :: more) ↔
      ∃ text behind, more = text ++ behind ∧ Literal c text ∧ Inside stop depth behind := by
  constructor
  · intro h
    generalize htext : c :: more = text at h
    cases h with
    | done => cases htext
    | literal _ hliteral next =>
      cases htext
      exact ⟨_, _, rfl, hliteral, next⟩
    | char hquote' =>
      cases htext
      exact absurd (hquote'.symm.trans hquote) (by simp)
  · rintro ⟨text, behind, rfl, hliteral, next⟩
    exact .literal hquote hliteral next

/-- Plain characters do not matter to the inside of a span. -/
lemma inside_append_iff (hstop : IsStop stop) (hfront : ∀ x ∈ front, IsPlain x) :
    Inside stop depth (front ++ more) ↔ Inside stop depth more := by
  induction front with
  | nil => rfl
  | cons c front ih =>
    have hc : IsPlain c := hfront c (by simp)
    have hdepth : Span.depthAfter depth c = depth := by simp [Span.depthAfter, hc.2.1, hc.2.2.1]
    rw [← ih fun x hx => hfront x (by simp [hx]), List.cons_append, inside_cons_iff hc.1, hdepth]
    exact ⟨And.right, fun h => ⟨fun _ hmet => hstop.head?_ne hc (hstop.prefix_iff.mp hmet).1, h⟩⟩

/-- A look-up may stand anywhere inside a span. -/
lemma inside_lookup_iff {name : Text} (hstop : IsStop stop) (hname : IsWord name) :
    Inside stop depth (lookup name ++ more) ↔ Inside stop depth more := by
  unfold lookup
  split
  · exact inside_append_iff hstop (forall_mem_of_all (by decide))
  split
  · exact inside_append_iff hstop (forall_mem_of_all (by decide))
  have hlookup : contextName ++ ".locals[\"" ++ name ++ "\"]" ++ more =
      (contextName ++ ".locals") ++ '[' :: '"' :: ((name ++ ['"']) ++ ']' :: more) := by
    simp only [List.append_assoc]
    rfl
  have hmet : ∀ x ∈ ['[', ']'], ∀ rest : Text, ¬stop <+: x :: (rest ++ stop) := by
    intro x hx rest hmet
    obtain ⟨hhead, -⟩ := hstop.prefix_iff.mp hmet
    simp only [List.mem_cons, List.not_mem_nil, or_false] at hx
    cases hstop <;> rcases hx with rfl | rfl <;> exact absurd hhead (by decide)
  have hliteral := literal_of_isWord hname
  have hclose : Inside stop (depth + 1) (']' :: more) ↔ Inside stop depth more := by
    rw [inside_cons_iff (by decide)]
    exact and_iff_right fun _ => hmet _ (by simp) _
  rw [hlookup, inside_append_iff hstop (forall_mem_of_all (by decide)), inside_cons_iff (by decide), ← hclose]
  refine (and_iff_right fun _ => hmet _ (by simp) _).trans ((inside_quote_iff (by decide)).trans ⟨?_, ?_⟩)
  · rintro ⟨text, behind, heq, htext, hinside⟩
    -- the literal ends at its first closing quote
    have hlength := htext.length_eq (by decide) 0 behind
    rw [← heq, hliteral.length_eq (by decide)] at hlength
    obtain ⟨-, rfl⟩ := List.append_inj heq (by omega)
    exact hinside
  · exact fun hinside => ⟨_, _, rfl, hliteral, hinside⟩

/-! ### Tokens inside a span -/

lemma Renewed.append (h : Renewed more other) (back : Text) :
    Renewed (more ++ back) (other ++ back) := by
  obtain hsame | ⟨c, hc, hstart, hg⟩ := h
  · left
    rw [List.head?_append, List.head?_append, hsame]
  · exact .inr ⟨c, by simp [List.head?_append, hc], hstart, by simp [List.head?_append, hg]⟩

/-- The closing delimiter is met in front of a renewed text only where it was met before. -/
lemma IsStop.prefix_of_renewed (hstop : IsStop stop) (hother : Renewed more other)
    (hmet : stop <+: c :: (other ++ stop)) : stop <+: c :: (more ++ stop) := by
  rw [hstop.prefix_iff] at hmet ⊢
  obtain hsame | ⟨x, -, -, hg⟩ := hother
  · rwa [hsame] at hmet
  · rw [hg, Option.some_or] at hmet
    exact absurd hmet.2 (by decide)

/-- Characters that are no quotes in front of a renewed text. -/
lemma inside_append_of_renewed (hstop : IsStop stop)
    (hfront : ∀ x ∈ front, Span.isQuote x = false) (hother : Renewed more other)
    (hinside : ∀ depth, Inside stop depth more → Inside stop depth other)
    (h : Inside stop depth (front ++ more)) : Inside stop depth (front ++ other) := by
  induction front generalizing depth with
  | nil => exact hinside depth h
  | cons c front ih =>
    rw [List.cons_append, inside_cons_iff (hfront c (by simp))] at h ⊢
    refine ⟨fun hdepth hmet => h.1 hdepth ?_, ih (fun x hx => hfront x (by simp [hx])) h.2⟩
    cases front with
    | nil => exact hstop.prefix_of_renewed hother hmet
    | cons x front =>
      -- the next character is the same
      rw [hstop.prefix_iff] at hmet ⊢
      exact hmet

/-- No token but a string literal has a quote in it. -/
lemma quoteless_of_endsBefore {t : Token} (h : t.EndsBefore more) (hkind : t.kind ≠ .string) :
    ∀ x ∈ t.text, Span.isQuote x = false := by
  obtain ⟨c, rest, htext, hshape⟩ := h
  -- the characters of a class without the quotes
  have hclass : ∀ p : Char → Bool, p '\'' = false → p '"' = false → (∀ x ∈ rest, p x = true) →
      ∀ x ∈ rest, Span.isQuote x = false := by
    intro p hsingle hdouble hall x hx
    by_contra hquote
    have hp := hall x hx
    rcases Span.isQuote_iff.mp (by simpa using hquote) with rfl | rfl
    · rw [hsingle] at hp
      cases hp
    · rw [hdouble] at hp
      cases hp
  have hcons : Span.isQuote c = false → (∀ x ∈ rest, Span.isQuote x = false) →
      ∀ x ∈ t.text, Span.isQuote x = false := by
    intro hc hrest
    rw [htext]
    rintro x (_ | ⟨_, hx⟩)
    · exact hc
    · exact hrest x hx
  unfold Token.shape at hshape
  split at hshape
  · rename_i hblank
    simp only [Prod.mk.injEq, length_takeWhile_eq_iff] at hshape
    refine hcons ?_ (hclass _ (by decide) (by decide) hshape.2.1)
    by_contra hquote
    rcases Span.isQuote_iff.mp (by simpa using hquote) with rfl | rfl <;>
      exact absurd hblank (by decide)
  split at hshape
  · simp only [Prod.mk.injEq] at hshape
    exact absurd hshape.1.symm hkind
  rename_i hquote
  refine hcons (by simpa using hquote) ?_
  split at hshape
  · simp only [Prod.mk.injEq, length_takeWhile_eq_iff] at hshape
    exact hclass _ (by decide) (by decide) hshape.2.1
  split at hshape
  · simp only [Prod.mk.injEq, length_takeWhile_eq_iff] at hshape
    exact hclass _ (by decide) (by decide) hshape.2.1
  · rw [any_pairs_isPrefixOf] at hshape
    simp only [Prod.mk.injEq] at hshape
    cases rest with
    | nil => simp
    | cons x rest =>
      split at hshape
      · rename_i hpair
        obtain rfl : rest = [] := by simpa using hshape.2
        simp only [List.cons_append, List.head?_cons, Option.any_some] at hpair
        have hx : ∀ q ∈ ['\'', '"'], x ≠ q := by
          rintro q hq rfl
          simp [Token.pairs] at hpair hq
          rcases hq with rfl | rfl <;> simp at hpair
        simpa [Span.isQuote] using hx
      · simp at hshape

lemma Token.EndsBefore.isQuote {t : Token} (h : t.EndsBefore more) (hkind : t.kind = .string) :
    ∃ q text, t.text = q :: text ∧ Span.isQuote q = true ∧
      Span.literalLength q 0 (text ++ more) = text.length := by
  obtain ⟨c, rest, htext, hshape⟩ := h
  refine ⟨c, rest, htext, ?_⟩
  rw [hkind] at hshape
  unfold Token.shape at hshape
  split at hshape
  · cases hshape
  split at hshape
  · rename_i hquote
    simp only [Prod.mk.injEq, true_and] at hshape
    exact ⟨hquote, hshape⟩
  split at hshape
  · cases hshape
  split at hshape <;> cases hshape

lemma getLast?_of_literal {quote : Char} {text : Text} (h : Literal quote text) :
    text.getLast? = some quote := by
  induction h with
  | close => rfl
  | escaped h ih =>
    rw [List.getLast?_cons, List.getLast?_cons, ih]
    rfl
  | char _ _ h ih =>
    rw [List.getLast?_cons, ih]
    rfl

/-- A string literal inside a span is closed by the end of its token. -/
lemma literal_of_inside {t : Token} (h : t.EndsBefore more) (hkind : t.kind = .string)
    (hback : ∀ x ∈ back, Span.isQuote x = false)
    (hinside : Inside stop depth (t.text ++ (more ++ back))) :
    ∃ q text, t.text = q :: text ∧ Span.isQuote q = true ∧ Literal q text ∧
      Inside stop depth (more ++ back) := by
  obtain ⟨q, text, htext, hquote, hlength⟩ := h.isQuote hkind
  refine ⟨q, text, htext, hquote, ?_⟩
  rw [htext, List.cons_append, inside_quote_iff hquote] at hinside
  obtain ⟨front, behind, heq, hfront, hbehind⟩ := hinside
  rw [← List.append_assoc] at heq
  -- the literal does not end among the characters behind, which are no quotes
  obtain ⟨w, hw⟩ : front <+: text ++ more := by
    obtain ⟨w, rfl, rfl⟩ | ⟨w, hw, -⟩ := List.append_eq_append_iff.mp heq
    · cases hlast : w.getLast? with
      | none => simp [List.getLast?_eq_none_iff.mp hlast]
      | some x =>
        have hq := getLast?_of_literal hfront
        rw [List.getLast?_append, hlast, Option.some_or, Option.some.injEq] at hq
        subst hq
        have hno := hback x (List.mem_append_left _ (List.mem_of_getLast? hlast))
        rw [hquote] at hno
        cases hno
    · exact ⟨w, hw.symm⟩
  -- so it ends where the token does
  have hlength' := hfront.length_eq (Span.ne_backslash_of_isQuote hquote) 0 w
  rw [hw, hlength, Nat.zero_add] at hlength'
  obtain ⟨rfl, rfl⟩ := List.append_inj hw hlength'.symm
  rw [List.append_assoc, List.append_cancel_left_eq] at heq
  exact ⟨hfront, heq ▸ hbehind⟩

/-! ### Replaced spans -/

/-- Replacing names keeps the inside of a span an inside. -/
theorem Inside.replaced {marked : List (Token × Bool)} (hstop : IsStop stop)
    (hlexed : Lexed (marked.map Prod.fst)) (hmarked : NamesMarked marked)
    (hback : ∀ x ∈ back, Span.isQuote x = false)
    (h : Inside stop depth ((marked.map Prod.fst).flatMap Token.text ++ back)) :
    Inside stop depth (replacedText marked ++ back) := by
  induction marked generalizing depth with
  | nil => exact h
  | cons m rest ih =>
    obtain ⟨t, free⟩ := m
    have hmarked' : NamesMarked rest := fun t free hmem => hmarked t free (by simp [hmem])
    have hrest : replacedText ((t, free) :: rest) =
        (if free then lookup t.text else t.text) ++ replacedText rest := rfl
    cases hlexed with
    | cons hend hlexed =>
      rw [hrest, List.append_assoc]
      rw [List.map_cons, List.flatMap_cons, List.append_assoc] at h
      have hinside := fun depth => @ih depth hlexed hmarked'
      by_cases hstring : t.kind = .string
      · -- a string literal is kept, and it is closed
        have hfree : free = false := by
          by_contra hfree
          have hname := hmarked t free (by simp) (by simpa using hfree)
          simp [Token.isName, hstring] at hname
        subst hfree
        obtain ⟨q, text, htext, hquote, hliteral, hbehind⟩ :=
          literal_of_inside hend hstring hback h
        rw [if_neg (by simp), htext]
        exact .literal hquote hliteral (hinside depth hbehind)
      · cases free with
        | false =>
          have hrenewed := (renewed_replacedText hlexed hmarked').append back
          exact inside_append_of_renewed hstop (quoteless_of_endsBefore hend hstring) hrenewed
            hinside h
        | true =>
          have hword := isWord_of_endsBefore hend (hmarked t true (by simp) rfl)
          have hplain := fun x hx => isPlain_of_isWordChar (hword.isWordChar x hx)
          exact (inside_lookup_iff hstop hword).mpr (hinside depth ((inside_append_iff hstop hplain).mp h))

lemma getLast?_lookup (name : Text) :
    ∃ c, (lookup name).getLast? = some c ∧ Span.isControlSign c = false := by
  unfold lookup
  split
  · exact ⟨'t', rfl, rfl⟩
  split
  · exact ⟨'t', rfl, rfl⟩
  · refine ⟨']', ?_, rfl⟩
    rw [List.getLast?_append]
    rfl

lemma Lexed.text_ne_nil {ts : List Token} (h : Lexed ts) : ∀ t ∈ ts, t.text ≠ [] := by
  induction h with
  | nil => simp
  | cons hend _ ih =>
    rintro t (_ | ⟨_, ht⟩)
    · exact hend.text_ne_nil
    · exact ih t ht

/-- Replacing names keeps the control signs of a span. -/
lemma Signed.replaced {marked : List (Token × Bool)} (hlexed : Lexed (marked.map Prod.fst))
    (hmarked : NamesMarked marked)
    (h : Signed front ((marked.map Prod.fst).flatMap Token.text) back) :
    Signed front (replacedText marked) back := by
  have hrenewed := renewed_replacedText hlexed hmarked
  refine ⟨h.front_eq.imp (And.imp_right fun hhead => ?_) id,
    h.back_eq.imp (And.imp_right fun hlast => ?_) id, fun hfront hbody => ?_⟩
  · obtain hsame | ⟨-, -, -, hg⟩ := hrenewed
    · rwa [hsame]
    · rw [hg]
      rfl
  · cases marked.eq_nil_or_concat with
    | inl hnil =>
      subst hnil
      rfl
    | inr hconcat =>
      obtain ⟨rest, ⟨t, free⟩, rfl⟩ := hconcat
      have htext : t.text ≠ [] := hlexed.text_ne_nil t (by simp)
      have hreplaced : replacedText (rest ++ [(t, free)]) =
          replacedText rest ++ (if free then lookup t.text else t.text) := by
        simp [replacedText]
      rw [List.concat_eq_append, hreplaced]
      rw [List.concat_eq_append, List.map_append, List.flatMap_append] at hlast
      cases free with
      | false =>
        have hc := List.getLast?_eq_some_getLast htext
        simp only [List.map_cons, List.map_nil, List.flatMap_singleton, List.getLast?_append] at hlast
        rw [hc, Option.some_or] at hlast
        rw [if_neg (by simp), List.getLast?_append, hc, Option.some_or]
        exact hlast
      | true =>
        obtain ⟨c, hc, hsign⟩ := getLast?_lookup t.text
        simp [List.getLast?_append, hc, hsign]
  · refine h.back_nil hfront ?_
    rw [hbody] at hrenewed
    obtain hsame | ⟨-, -, -, hg⟩ := hrenewed
    · exact List.head?_eq_none_iff.mp hsame.symm
    · cases hg

end ComponentTags
