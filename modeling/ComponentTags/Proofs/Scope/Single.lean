/-
# Single spans

A text that is one span from its front to its end is closed at once (`captureIn_of_isSpan`).  Where the
body of a span begins and ends with a blank, so does the closed body (`exists_spaced`), and the blanks add
nothing to the significant tokens of what is between them (`significant_tokens_spaced`).  A statement
with an expression at its end is closed as if the expression were printed, if it is marked as there
(`captureIn_of_labels`).
-/
import ComponentTags.Proofs.Scope.Closed
import ComponentTags.Proofs.Scope.Joined

namespace ComponentTags

open Delimiters (standard)
open ComponentTags.Span (Inside IsSkipped enclosed)

/-! ### Closing a single span -/

/-- A text is one span from its front to its end. -/
def IsSpan (text : Text) : Prop := Span.length standard false text = .ok text.length

variable {kind : SpanKind} {body : Text}

/-- The closing delimiter of a single span is met at its end. -/
lemma IsSpan.inside (h : IsSpan (enclosed kind body)) (hnot : ¬IsSkipped kind (enclosed kind body)) :
    Inside (standard.stop kind) 0 body := by
  have hkind : Span.kindAt? standard (enclosed kind body) = some kind :=
    Span.kindAt?_eq_some_iff.mpr (List.prefix_append _ _)
  obtain ⟨span, behind, heq, hlength, -, hinside⟩ := Span.whole_of_length hkind h
  obtain rfl : behind = [] := by
    have hsum := congrArg List.length heq
    rw [List.length_append, hlength] at hsum
    exact List.eq_nil_of_length_eq_zero (by omega)
  rw [List.append_nil] at heq
  subst heq
  obtain hskipped | ⟨body', heq, hinside⟩ := hinside
  · exact absurd hskipped hnot
  · rw [enclosed, enclosed, List.append_cancel_left_eq, List.append_cancel_right_eq] at heq
    exact heq ▸ hinside

/-- What a single span is closed to. -/
lemma captureIn_of_isSpan (h : IsSpan (enclosed kind body)) (hsigned : Signed [] body [])
    (hnot : ¬IsSkipped kind (enclosed kind body)) (s : Scope) :
    captureIn standard s (enclosed kind body) =
      .ok ⟨enclosed kind (replacedText (markSpan s kind body)), capturedNames (markSpan s kind body),
        scopeBehind s kind body⟩ := by
  have hsplits : Splits (enclosed kind body ++ []) [.span kind (enclosed kind body)] :=
    .span (h.inside hnot) hnot .nil
  rw [List.append_nil] at hsplits
  have hpiece := @capturePiece_enclosed kind [] body [] s hsigned
  simp only [List.nil_append, List.append_nil] at hpiece
  refine captureIn_eq_ok_iff.mpr ⟨_, hsplits, ?_⟩
  simp only [capturePieces, hpiece, List.append_nil]

/-! ### Texts between blanks -/

/-- A text with a blank in front of it and one behind it. -/
def spaced (text : Text) : Text := ' ' :: (text ++ [' '])

lemma signed_spaced (text : Text) : Signed [] (spaced text) [] := by
  refine ⟨.inl ⟨rfl, rfl⟩, .inl ⟨rfl, ?_⟩, fun _ _ => rfl⟩
  rw [spaced, ← List.cons_append, List.getLast?_concat]
  rfl

/-- A last character that is no part of a name is kept. -/
lemma getLast?_replacedText {marked : List (Token × Bool)} {c : Char}
    (hlexed : Lexed (marked.map Prod.fst)) (hmarked : NamesMarked marked)
    (hc : Text.isWordChar c = false)
    (hlast : ((marked.map Prod.fst).flatMap Token.text).getLast? = some c) :
    (replacedText marked).getLast? = some c := by
  cases marked.eq_nil_or_concat with
  | inl hnil =>
    subst hnil
    cases hlast
  | inr hconcat =>
    obtain ⟨rest, ⟨t, free⟩, rfl⟩ := hconcat
    rw [List.concat_eq_append, List.map_append] at hlexed
    rw [List.concat_eq_append, List.map_append, List.flatMap_append] at hlast
    rw [List.concat_eq_append, replacedText, List.flatMap_append]
    simp only [List.map_cons, List.map_nil, List.flatMap_singleton, List.getLast?_append] at hlast ⊢
    obtain ⟨hend, -⟩ : t.EndsBefore [] ∧ Lexed [] := by
      cases hlexed.of_append with
      | cons hend hnil => exact ⟨hend, hnil⟩
    obtain ⟨x, hx⟩ := Option.ne_none_iff_exists'.mp (mt List.getLast?_eq_none_iff.mp hend.text_ne_nil)
    rw [hx, Option.some_or, Option.some.injEq] at hlast
    subst hlast
    cases free with
    | false => rw [if_neg (by simp), hx, Option.some_or]
    | true =>
      -- a name has only characters of names
      have hword := isWord_of_endsBefore hend (hmarked t true (by simp) rfl)
      rw [hword.isWordChar x (List.mem_of_getLast? hx)] at hc
      cases hc

/-- The blanks around a text are kept. -/
lemma exists_spaced {marked : List (Token × Bool)} {text : Text} (hlexed : Lexed (marked.map Prod.fst))
    (hmarked : NamesMarked marked) (h : (marked.map Prod.fst).flatMap Token.text = spaced text) :
    ∃ new, replacedText marked = spaced new := by
  cases marked with
  | nil => cases h
  | cons m rest =>
    obtain ⟨t, free⟩ := m
    have hmarked' : NamesMarked rest := fun t free hmem => hmarked t free (by simp [hmem])
    cases hlexed with
    | cons hend hlexed =>
      simp only [List.map_cons, List.flatMap_cons, spaced] at h hend
      obtain ⟨c, more, htext⟩ := List.exists_cons_of_ne_nil hend.text_ne_nil
      rw [htext, List.cons_append, List.cons.injEq] at h
      obtain ⟨rfl, h⟩ := h
      -- a token that begins with a blank is no name
      have hfree : free = false := by
        by_contra hfree
        have hword := isWord_of_endsBefore hend (hmarked t free (by simp) (by simpa using hfree))
        have hblank := hword.isWordChar ' ' (by simp [htext])
        revert hblank
        decide
      subst hfree
      have hlast : (more ++ replacedText rest).getLast? = some ' ' := by
        have hsame := congrArg List.getLast? h
        rw [List.getLast?_concat, List.getLast?_append] at hsame
        rw [List.getLast?_append]
        cases hrest : ((rest.map Prod.fst).flatMap Token.text).getLast? with
        | none =>
          rw [hrest, Option.none_or] at hsame
          cases rest with
          | nil => exact hsame
          | cons u rest =>
            rw [List.getLast?_eq_none_iff] at hrest
            exact absurd (List.flatMap_eq_nil_iff.mp hrest u.1 (by simp))
              (hlexed.text_ne_nil u.1 (by simp))
        | some x =>
          rw [hrest, Option.some_or, Option.some.injEq] at hsame
          subst hsame
          rw [getLast?_replacedText hlexed hmarked' (by decide) hrest, Option.some_or]
      obtain ⟨new, hnew⟩ := List.getLast?_eq_some_iff.mp hlast
      refine ⟨new, ?_⟩
      rw [spaced, ← hnew, ← List.cons_append, ← htext]
      rfl

/-! ### Tokens of blanks -/

variable {blanks behind : Text}

/-- The codes of the blank characters. -/
def blankCodes : List Nat :=
  [9, 10, 11, 12, 13, 28, 29, 30, 31, 32, 0x85, 0xa0, 0x1680, 0x2000, 0x2001, 0x2002, 0x2003, 0x2004,
    0x2005, 0x2006, 0x2007, 0x2008, 0x2009, 0x200a, 0x2028, 0x2029, 0x202f, 0x205f, 0x3000]

lemma eq_false_of_isBlank {p : Char → Bool} (h : ∀ n ∈ blankCodes, p (Char.ofNat n) = false) {c : Char}
    (hc : Text.isBlank c = true) : p c = false := by
  rw [← Char.ofNat_toNat c]
  refine h _ ?_
  simp only [Text.isBlank, Bool.or_eq_true, Bool.and_eq_true, decide_eq_true_eq, beq_iff_eq] at hc
  simp only [blankCodes, List.mem_cons, List.not_mem_nil, or_false]
  omega

/-- No blank is a part of a name. -/
lemma isWordChar_of_isBlank {c : Char} (h : Text.isBlank c = true) : Text.isWordChar c = false := by
  have hblanks : ∀ n ∈ blankCodes, Text.isWordChar (Char.ofNat n) = false := by
    decide +kernel
  exact eq_false_of_isBlank hblanks h

/-- Blanks end in front of anything else. -/
lemma endsBefore_blank {c : Char} (hc : Text.isBlank c = true)
    (hblanks : ∀ x ∈ blanks, Text.isBlank x = true) (hbehind : behind.head?.any Text.isBlank = false) :
    Token.EndsBefore ⟨.blank, c :: blanks⟩ behind := by
  refine ⟨c, blanks, rfl, ?_⟩
  rw [Token.shape, if_pos hc, Prod.mk.injEq, length_takeWhile_eq_iff]
  exact ⟨rfl, hblanks, hbehind⟩

lemma exists_tokens_blanks (hblanks : ∀ x ∈ blanks, Text.isBlank x = true)
    (hbehind : behind.head?.any Text.isBlank = false) :
    ∃ ts, tokens (blanks ++ behind) = ts ++ tokens behind ∧ significant ts = [] := by
  cases blanks with
  | nil => exact ⟨[], rfl, rfl⟩
  | cons c blanks =>
    have hend : Token.EndsBefore ⟨.blank, c :: blanks⟩ behind :=
      endsBefore_blank (hblanks c (by simp)) (fun x hx => hblanks x (by simp [hx])) hbehind
    exact ⟨[⟨.blank, c :: blanks⟩], tokens_append hend, rfl⟩

lemma significant_append (ts us : List Token) : significant (ts ++ us) = significant ts ++ significant us :=
  List.filter_append _ _

/-- A blank in front of a text adds nothing significant. -/
lemma significant_tokens_cons {c : Char} (hc : Text.isBlank c = true) (text : Text) :
    significant (tokens (c :: text)) = significant (tokens text) := by
  -- the blank is one token together with the blanks that begin the text
  have hblanks : ∀ x ∈ text.takeWhile Text.isBlank, Text.isBlank x = true :=
    fun x hx => List.mem_takeWhile_imp hx
  have hhead : (text.dropWhile Text.isBlank).head?.any Text.isBlank = false := by
    have hnext := List.head?_dropWhile_not Text.isBlank text
    cases hdrop : (text.dropWhile Text.isBlank).head? with
    | none => rfl
    | some x =>
      rw [hdrop] at hnext
      exact hnext
  have htext : text.takeWhile Text.isBlank ++ text.dropWhile Text.isBlank = text :=
    List.takeWhile_append_dropWhile
  obtain ⟨ts, hts, hno⟩ := exists_tokens_blanks hblanks hhead
  have hfirst := tokens_append (endsBefore_blank hc hblanks hhead)
  rw [List.cons_append, htext] at hfirst
  rw [htext] at hts
  rw [hfirst, hts, significant_append, hno, List.nil_append]
  rfl

/-- A token that ends a text ends in front of a blank, too, unless blanks or a string literal may go on. -/
lemma Token.EndsBefore.blank {t : Token} (h : t.EndsBefore []) (hstring : t.kind ≠ .string)
    (hblank : t.kind ≠ .blank) : t.EndsBefore [' '] := by
  refine Token.endsBefore_iff.mpr ⟨h, ?_⟩
  rintro _ ⟨⟩
  obtain ⟨kind, text⟩ := t
  cases kind with
  | blank => exact absurd rfl hblank
  | string => exact absurd rfl hstring
  | number => exact Bool.eq_false_iff.mp (by decide)
  | name => exact Bool.eq_false_iff.mp (by decide)
  | sign =>
    have hlast : ∀ p ∈ Token.pairs, p.getLast? ≠ some ' ' := by decide
    exact fun hpair => hlast _ hpair List.getLast?_concat

/-- Characters that are no quotes may be taken away from an inside. -/
lemma exists_inside_of_append {stop front more : Text} {depth : Nat}
    (hfront : ∀ x ∈ front, Span.isQuote x = false) (h : Inside stop depth (front ++ more)) :
    ∃ depth', Inside stop depth' more := by
  induction front generalizing depth with
  | nil => exact ⟨depth, h⟩
  | cons c front ih =>
    rw [List.cons_append, inside_cons_iff (hfront c (by simp))] at h
    exact ih (fun x hx => hfront x (by simp [hx])) h.2

/-- A blank behind a text adds nothing significant where no string literal is open. -/
lemma significant_tokens_concat {stop text : Text} {depth : Nat} (h : Inside stop depth (text ++ [' '])) :
    significant (tokens (text ++ [' '])) = significant (tokens text) := by
  have hlexed := lexed_tokens text
  have hjoin := tokens_join text
  generalize tokens text = ts at hlexed hjoin
  subst hjoin
  induction hlexed generalizing depth with
  | nil =>
    rw [List.flatMap_nil, List.nil_append, significant_tokens_cons (by decide), tokens]
  | @cons t ts hend hlexed ih =>
    rw [List.flatMap_cons, List.append_assoc] at h ⊢
    -- where the token still ends, the tokens behind it are found as before
    have hnext : ∀ {depth'}, Inside stop depth' (ts.flatMap Token.text ++ [' ']) →
        t.EndsBefore (ts.flatMap Token.text ++ [' ']) →
        significant (tokens (t.text ++ (ts.flatMap Token.text ++ [' ']))) = significant (t :: ts) := by
      intro depth' hinside hend'
      rw [tokens_append hend', ← List.singleton_append, ← List.singleton_append (l := ts),
        significant_append, significant_append, ih hinside]
    by_cases hstring : t.kind = .string
    · obtain ⟨q, literal, htext, hquote, hliteral, hinside⟩ :=
        literal_of_inside hend hstring (List.forall_mem_singleton.mpr rfl) h
      refine hnext hinside ?_
      have hend' := endsBefore_string hquote hliteral (ts.flatMap Token.text ++ [' '])
      rwa [← htext, ← hstring] at hend'
    obtain ⟨depth', hinside⟩ := exists_inside_of_append (quoteless_of_endsBefore hend hstring) h
    cases ts with
    | cons u ts =>
      have hrenewed : Renewed ((u :: ts).flatMap Token.text) ((u :: ts).flatMap Token.text ++ [' ']) := by
        left
        rw [List.head?_append, Option.or_of_isSome]
        simpa using .inl (hlexed.text_ne_nil u (by simp))
      exact hnext hinside (hend.renewed hrenewed)
    | nil =>
      by_cases hblank : t.kind = .blank
      · obtain ⟨hno, hall⟩ | ⟨hsignificant, -⟩ := isBlank_iff_of_endsBefore hend
        · have hblanks : ∀ x ∈ t.text ++ [' '], Text.isBlank x = true := by
            intro x hx
            rcases List.mem_append.mp hx with hx | hx
            · exact hall x hx
            · rw [List.mem_singleton.mp hx]
              decide
          obtain ⟨us, hus, hnone⟩ := @exists_tokens_blanks _ [] hblanks rfl
          rw [List.append_nil] at hus
          rw [List.flatMap_nil, List.nil_append, hus, significant_append, hnone, tokens]
          simp [significant, hno]
        · simp [Token.isSignificant, hblank] at hsignificant
      · exact hnext hinside (hend.blank hstring hblank)

/-! ### Printed expressions -/

variable {e : Text} {s : Scope}

/-- An expression that is printed. -/
def printing (e : Text) : Text := "\x7b\x7b " ++ (e ++ " \x7d\x7d")

lemma printing_eq (e : Text) : printing e = enclosed .expression (spaced e) := by
  simp [printing, enclosed, spaced, Delimiters.start, Delimiters.stop, standard]

lemma printing_inj {other : Text} : printing e = printing other ↔ e = other := by
  simp [printing]

lemma not_isSkipped_expression (inside : Text) : ¬IsSkipped .expression (enclosed .expression inside) := by
  rintro (hkind | ⟨hkind, -⟩) <;> cases hkind

/-- A printed expression is closed between its blanks. -/
lemma exists_captureIn_printing (h : IsSpan (printing e)) (s : Scope) :
    ∃ e', replacedText (markExpression s.names (tokens (spaced e))) = spaced e' ∧
      captureIn standard s (printing e) =
        .ok ⟨printing e', capturedNames (markExpression s.names (tokens (spaced e))), s⟩ := by
  have hes : (markExpression s.names (tokens (spaced e))).map Prod.fst = tokens (spaced e) :=
    markFree_tokens _ _ _ _
  have hmarked : VariablesMarked (markExpression s.names (tokens (spaced e))) := variablesMarked_markFree
  obtain ⟨e', he'⟩ := exists_spaced (hes.symm ▸ lexed_tokens (spaced e)) hmarked.namesMarked
    (by rw [hes, tokens_join])
  refine ⟨e', he', ?_⟩
  rw [printing_eq] at h ⊢
  rw [captureIn_of_isSpan h (signed_spaced e) (not_isSkipped_expression _) s, printing_eq, ← he']
  rfl

/-- No string literal of a printed expression is open at its end, so the blanks around it add nothing
significant. -/
lemma significant_tokens_spaced (h : IsSpan (printing e)) :
    significant (tokens (spaced e)) = significant (tokens e) := by
  rw [printing_eq] at h
  have hinside := h.inside (not_isSkipped_expression _)
  rw [spaced, inside_cons_iff (by decide)] at hinside
  rw [spaced, significant_tokens_cons (by decide), significant_tokens_concat hinside.2]

/-! ### Statements with an expression at their end -/

/-- A statement with tokens in front of an expression that are kept, while the expression is marked as where it
is printed and some names are bound: the expression is closed as it is there. -/
lemma captureIn_of_labels {front e' word : Text} {labels rest : List Token} {bound : List Text}
    (h : IsSpan (enclosed .statement (front ++ spaced e))) (hsigned : Signed [] (front ++ spaced e) [])
    (htokens : tokens (front ++ spaced e) = labels ++ tokens (spaced e))
    (hstatement : statementTag? (labels ++ tokens (spaced e)) = some (word, rest)) (hword : word ≠ "raw")
    (hmarks : markStatement s.names (labels ++ tokens (spaced e)) =
      labels.map (·, false) ++ markExpression bound (tokens (spaced e)))
    (he' : replacedText (markExpression bound (tokens (spaced e))) = spaced e') :
    captureIn standard s (enclosed .statement (front ++ spaced e)) =
      .ok ⟨enclosed .statement (front ++ spaced e'),
        capturedNames (markExpression bound (tokens (spaced e))),
        s.afterStatement (labels ++ tokens (spaced e))⟩ := by
  have hnot : ¬IsSkipped .statement (enclosed .statement (front ++ spaced e)) := by
    have hiff := @isSkipped_enclosed_iff .statement _ _ _ hsigned
    rw [List.nil_append, List.append_nil] at hiff
    rw [hiff, htokens, hstatement]
    rintro (hkind | ⟨-, rest, hraw⟩)
    · cases hkind
    · exact hword (Prod.mk.inj (Option.some.inj hraw)).1
  have hfront : labels.flatMap Token.text = front := by
    have hall := tokens_join (front ++ spaced e)
    rw [htokens, List.flatMap_append, tokens_join] at hall
    exact List.append_cancel_right hall
  have hmark : markSpan s .statement (front ++ spaced e) =
      labels.map (·, false) ++ markExpression bound (tokens (spaced e)) := by
    rw [← hmarks, ← htokens]
    rfl
  have hscope : scopeBehind s .statement (front ++ spaced e) =
      s.afterStatement (labels ++ tokens (spaced e)) := by
    rw [← htokens]
    rfl
  have htext : replacedText (labels.map (·, false) ++ markExpression bound (tokens (spaced e))) =
      front ++ spaced e' := by
    rw [replacedText, List.flatMap_append, List.flatMap_map]
    exact congrArg₂ _ hfront he'
  rw [captureIn_of_isSpan h hsigned hnot s, hmark, hscope, capturedNames_append, capturedNames_kept,
    List.nil_append, htext]

end ComponentTags
