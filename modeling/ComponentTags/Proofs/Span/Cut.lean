/-
# Spans that are cut out

A span that is found at a place of a template can be cut out of it: it begins and ends with the delimiters
of its kind, which do not overlap, and in front of any other text it is found again as the same single span
(`skipSpan_cut`).  Where nested expressions are rejected the same holds, for the characters up to the closing
delimiter alone say whether an expression begins inside.

The parser, the closing of content and the writing of lowered text all look at parts of a template, and rely
on finding the spans there that the template has.
-/
import ComponentTags.Source
import ComponentTags.Proofs.Markup.Lenient
import ComponentTags.Proofs.Markup.Tiling
import ComponentTags.Proofs.Span.Local

namespace ComponentTags

open Delimiters (standard)

namespace Span

variable {kind : SpanKind} {inside span : Text} {rejectNested : Bool} {depth n : Nat}

/-- Where the inside of a span ends does not depend on what follows the closing delimiter. -/
lemma Inside.bodyLength_eq (hkind : kind ≠ .comment) (h : Inside (standard.stop kind) depth inside)
    (rejectNested : Bool) (count : Nat) (behind other : Text) :
    bodyLength standard kind rejectNested depth count (inside ++ (standard.stop kind ++ behind)) =
      bodyLength standard kind rejectNested depth count (inside ++ (standard.stop kind ++ other)) := by
  obtain ⟨hquote, hne⟩ := stop_standard hkind
  induction h generalizing count with
  | done =>
    -- the closing delimiter is met at once
    obtain ⟨c, rest, hstop⟩ := List.exists_cons_of_ne_nil hne
    rw [hstop] at hquote
    have hmet : ∀ text : Text, bodyLength standard kind rejectNested 0 count
        (standard.stop kind ++ text) = .ok (count + (standard.stop kind).length) := by
      intro text
      simp only [hstop, List.cons_append]
      rw [bodyLength, if_neg (by simpa using hquote), if_pos (by simp [hstop]), hstop]
    rw [List.nil_append, List.nil_append, hmet, hmet]
  | @literal depth quote text rest hopens htext _ ih =>
    simp only [List.cons_append, List.append_assoc]
    rw [bodyLength, if_pos hopens, bodyLength, if_pos hopens]
    simp only [htext.length_eq (ne_backslash_of_isQuote hopens), Nat.zero_add, List.drop_left]
    exact ih _
  | @char depth c rest hplain _ _ ih =>
    -- two characters decide whether a delimiter stands here
    have hlocal : ∀ p text : Text, p.length = 2 →
        p.isPrefixOf (c :: (rest ++ (standard.stop kind ++ text))) =
          p.isPrefixOf (c :: (rest ++ standard.stop kind)) := by
      intro p text hp
      rw [Bool.eq_iff_iff, List.isPrefixOf_iff_prefix, List.isPrefixOf_iff_prefix, ← List.append_assoc,
        ← List.cons_append]
      exact Text.prefix_append_iff (by simp [hp, length_stop])
    have hstep : ∀ text : Text, bodyLength standard kind rejectNested depth count
        (c :: (rest ++ (standard.stop kind ++ text))) =
          if depth = 0 && (standard.stop kind).isPrefixOf (c :: (rest ++ standard.stop kind)) then
            .ok (count + (standard.stop kind).length)
          else if rejectNested &&
              standard.expressionStart.isPrefixOf (c :: (rest ++ standard.stop kind)) then
            .error ⟨count, .nestedExpression⟩
          else bodyLength standard kind rejectNested (depthAfter depth c) (count + 1)
            (rest ++ (standard.stop kind ++ text)) := by
      intro text
      rw [bodyLength, if_neg (by simp [hplain]), hlocal _ _ (length_stop kind),
        hlocal standard.expressionStart _ rfl]
    rw [List.cons_append, List.cons_append, hstep, hstep, ih]

/-- A comment or a raw block is as long where nested expressions are rejected. -/
lemma Whole.length_of_isSkipped (h : Whole kind span) (hskip : IsSkipped kind span)
    (rejectNested : Bool) (behind : Text) :
    length standard rejectNested (span ++ behind) = .ok span.length := by
  rw [← h.length_eq behind]
  unfold length
  rw [h.kindAt?_eq]
  rcases hskip with rfl | ⟨rfl, hraw⟩
  · rfl
  · simp [h.statementName_eq behind rfl, hraw]

/-- A span is as long in front of any other text, also where nested expressions are rejected. -/
lemma length_enclosed_append {behind : Text} (hwhole : Whole kind (enclosed kind inside))
    (hinside : IsSkipped kind (enclosed kind inside) ∨ Inside (standard.stop kind) 0 inside)
    (h : length standard rejectNested (enclosed kind inside ++ behind) = .ok n) (other : Text) :
    length standard rejectNested (enclosed kind inside ++ other) = .ok n := by
  by_cases hskip : IsSkipped kind (enclosed kind inside)
  · rw [hwhole.length_of_isSkipped hskip] at h ⊢
    exact h
  have hkind : kind ≠ .comment := fun hcomment => hskip (.inl hcomment)
  -- an expression or a statement ends where its inside does
  have hbody : ∀ text : Text, length standard rejectNested (enclosed kind inside ++ text) =
      bodyLength standard kind rejectNested 0 2 (inside ++ (standard.stop kind ++ text)) := by
    intro text
    have hnot : ¬(kind = .statement ∧
        statementName standard (enclosed kind inside ++ text) = "raw") := by
      rintro ⟨hstatement, hname⟩
      exact hskip (.inr ⟨hstatement, hwhole.statementName_eq text hstatement ▸ hname⟩)
    rw [length_eq_bodyLength hkind (hwhole.kindAt?_eq text) hnot, enclosed, List.append_assoc,
      List.append_assoc, List.drop_left' (length_start kind)]
  rw [hbody] at h ⊢
  rw [← h]
  exact (hinside.resolve_left hskip).bodyLength_eq hkind rejectNested 2 other behind

end Span

/-! ### Places of a template -/

namespace Source

variable {text : Text} {name : Option Text} {place last : Nat} {rejectNested : Bool}

/-- A span that begins at a place is what the text behind the place begins with. -/
lemma skipSpan_eq_ok_iff {s : Source} :
    s.skipSpan place rejectNested = .ok last ↔
      place ≤ s.length ∧ ∃ kind n, Span.kindAt? s.delimiters (s.rest place) = some kind ∧
        Span.length s.delimiters rejectNested (s.rest place) = .ok n ∧ last = place + n := by
  unfold skipSpan spanKind? placeAfter
  by_cases hplace : place ≤ s.length
  · rw [if_pos hplace]
    cases hkind : Span.kindAt? s.delimiters (s.rest place) with
    | none => simp
    | some kind =>
      cases hlength : Span.length s.delimiters rejectNested (s.rest place) with
      | error f => simp
      | ok n => simp [hplace, eq_comm]
  · simp [hplace]

/-- A span that is found at a place begins and ends with the delimiters of its kind, and it lies in the
text.  Cut out of the text it is the same single span, whatever follows it there; this holds where nested
expressions are rejected, if they were rejected when the span was found, and where they are not. -/
theorem skipSpan_cut (h : Source.skipSpan ⟨text, standard, name⟩ place rejectNested = .ok last) :
    place < last ∧ last ≤ text.length ∧
      ∃ kind inside, Source.spanKind? ⟨text, standard, name⟩ place = some kind ∧
        text.between place last = standard.start kind ++ (inside ++ standard.stop kind) ∧
        ∀ (behind : Text) (name' : Option Text) (rejectNested' : Bool),
          (rejectNested' = true → rejectNested = true) →
            Source.spanKind? ⟨text.between place last ++ behind, standard, name'⟩ 0 = some kind ∧
              Source.skipSpan ⟨text.between place last ++ behind, standard, name'⟩ 0 rejectNested' =
                .ok (last - place) := by
  obtain ⟨hplace, kind, n, hkind, hlength, rfl⟩ := skipSpan_eq_ok_iff.mp h
  obtain ⟨inside, rest, hrest, rfl, hwhole, hinside⟩ :=
    Span.enclosed_of_length hkind (Span.length_lenient hlength)
  have hcut : text.between place (place + (Span.enclosed kind inside).length) =
      Span.enclosed kind inside := by
    rw [Text.between_eq, show text.drop place = _ from hrest, List.take_left]
  have hlast : text.length - place = (Span.enclosed kind inside).length + rest.length := by
    rw [← List.length_drop, ← List.length_append]
    exact congrArg List.length hrest
  rw [hcut, Nat.add_sub_cancel_left]
  have hpos := Span.length_enclosed kind inside
  refine ⟨by omega, by omega, kind, inside, ?_, rfl, fun behind name' rejectNested' hreject => ?_⟩
  · rw [Source.spanKind?, if_pos hplace, hkind]
  · have hfound : Span.length standard rejectNested' (Span.enclosed kind inside ++ behind) =
        .ok (Span.enclosed kind inside).length := by
      cases rejectNested' with
      | false => exact hwhole.length_eq behind
      | true =>
        rw [hreject rfl, hrest] at hlength
        exact Span.length_enclosed_append hwhole hinside hlength behind
    refine ⟨by simpa [Source.spanKind?, Source.rest] using hwhole.kindAt?_eq behind, ?_⟩
    exact skipSpan_eq_ok_iff.mpr ⟨Nat.zero_le _, kind, _, hwhole.kindAt?_eq behind, hfound,
      (Nat.zero_add _).symm⟩

/-- An expression whose closing delimiter occurs in a literal and in brackets, cut out of a text and put in
front of another span. -/
theorem skipSpan_cut_literal :
    Source.skipSpan ⟨"a\x7b\x7b f('\x7d\x7d', \x7b\x7d) \x7d\x7db", standard, none⟩ 1 true = .ok 18 ∧
      Source.skipSpan ⟨"\x7b\x7b f('\x7d\x7d', \x7b\x7d) \x7d\x7d\x7d\x7d\x7b# c", standard, none⟩ 0 true =
        .ok 17 := by
  have hfound : Source.skipSpan ⟨"a\x7b\x7b f('\x7d\x7d', \x7b\x7d) \x7d\x7db", standard, none⟩ 1 true =
      .ok 18 := by
    with_unfolding_all rfl
  obtain ⟨-, -, kind, inside, -, -, hcut⟩ := skipSpan_cut hfound
  exact ⟨hfound, (hcut "\x7d\x7d\x7b# c" none true id).2⟩

end Source

end ComponentTags
