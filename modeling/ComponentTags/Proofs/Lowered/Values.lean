/-
# What the values of attributes read

The value of an attribute is closed as a text and taken apart into expressions afterwards.  The expressions
of the closed value are those of the value with names replaced (`exists_valueParts_of_spliced`).  So if no
name in an expression of the value is reserved, a look-up that an expression of the closed value reads is
one that closing has put there, and its variable is captured (`mem_captured_of_reads_value`).
-/
import ComponentTags.Proofs.Lowered.Reads
import ComponentTags.Proofs.Lowered.Steps
import ComponentTags.Proofs.Scope.Respelled

namespace ComponentTags

open Delimiters (standard)
open ComponentTags.Span (Inside enclosed)

/-- No name in an expression of a value is reserved. -/
def UnreservedValue (value : Text) : Prop :=
  ∀ parts, valueParts standard value = .ok parts → ∀ e, .expression e ∈ parts → Unreserved (tokens e)

variable {name : Text} {captured : List Text} {kind : TokenKind} {v v' : Text}

/-! ### Tokens -/

/-- If no token of a text is reserved, what the closed text reads is captured. -/
lemma Respelled.mem_captured {ts us : List Token} (h : Respelled captured ts us) (hno : Unreserved ts)
    (hreads : captureTokens name <:+: significant us) : name ∈ captured := by
  induction h with
  | nil => simp [significant, captureTokens] at hreads
  | @same ts us t _ ih =>
    rw [← List.singleton_append, significant, List.filter_append] at hreads
    refine ih (fun u hu => hno u (.tail _ hu)) (infix_append_of_forall_ne ?_ hreads)
    rintro u hu rfl
    -- the token would be reserved
    obtain rfl := List.mem_singleton.mp (List.mem_filter.mp hu).1
    exact absurd (hno _ (.head _) rfl) (by decide)
  | @name n ts us hcaptured _ ih =>
    rw [significant, List.filter_append] at hreads
    change captureTokens name <:+: significant (lookupTokens n) ++ _ at hreads
    rw [significant_lookupTokens] at hreads
    obtain ⟨hn, rfl⟩ | hreads := infix_lookupTokens hreads
    · exact hcaptured hn
    · exact ih (fun u hu => hno u (.tail _ hu)) hreads
  | literal hmore _ ih =>
    rw [significant, List.filter_append] at hreads
    exact ih (fun u hu => hno u (.tail _ hu))
      (infix_append_of_forall_ne (fun u hu => hmore u (List.mem_filter.mp hu).1) hreads)

/-! ### Expressions of a value -/

/-- A span of a closed text is a span of the text. -/
lemma Spliced.exists_enclosed {inside' behind' : Text}
    (h : Spliced captured kind v (enclosed .expression inside' ++ behind')) :
    ∃ inside behind kind', v = enclosed .expression inside ++ behind ∧ Spliced captured .sign inside inside' ∧
      Spliced captured kind' behind behind' := by
  have hspan : enclosed .expression inside' ++ behind' =
      standard.expressionStart ++ (inside' ++ '\x7d' :: ('\x7d' :: behind')) := by
    simp only [enclosed, List.append_assoc]
    rfl
  rw [hspan] at h
  have hsign : kindBehind kind standard.expressionStart = .sign := kindBehind_start kind .expression
  obtain ⟨other, rfl, hother⟩ := h.exists_behind (by decide)
  rw [hsign] at hother
  obtain ⟨inside, other, rfl, hinside, hbrace⟩ := hother.exists_cut (by decide) (by decide)
  obtain ⟨behind, rfl, hbehind⟩ := @exists_behind _ _ _ _ ['\x7d'] hbrace (by decide)
  refine ⟨inside, behind, _, ?_, hinside, hbehind⟩
  simp only [enclosed, List.append_assoc]
  rfl

lemma not_isControlSign_of_isWordChar {c : Char} (h : Text.isWordChar c = true) :
    Span.isControlSign c = false := by
  by_contra hsign
  obtain rfl | rfl := eq_of_isControlSign (by simpa using hsign)
  · exact absurd h (by decide)
  · exact absurd h (by decide)

lemma getLast?_append_of_ne_nil (front : Text) {text : Text} (h : text ≠ []) :
    (front ++ text).getLast? = text.getLast? := by
  rw [List.getLast?_append, Option.or_of_isSome (by simpa using h)]

/-- A closed text begins with a control sign if the text does. -/
lemma Spliced.head?_any (h : Spliced captured kind v v') (hhead : v'.head?.any Span.isControlSign = false) :
    v.head?.any Span.isControlSign = false := by
  cases h with
  | nil | char => exact hhead
  | name hword =>
    cases hword with
    | intro hstart => simpa using not_isControlSign_of_isWordChar hstart.isWordChar

/-- A closed text ends with a control sign if the text does. -/
lemma Spliced.getLast?_any (h : Spliced captured kind v v')
    (hlast : v'.getLast?.any Span.isControlSign = false) : v.getLast?.any Span.isControlSign = false := by
  induction h with
  | nil => exact hlast
  | @char kind c v v' h ih =>
    by_cases hv : v = []
    · obtain rfl := h.eq_nil_iff.mp hv
      rwa [hv]
    · rw [← List.singleton_append, getLast?_append_of_ne_nil _ (mt h.eq_nil_iff.mpr hv)] at hlast
      rw [← List.singleton_append, getLast?_append_of_ne_nil _ hv]
      exact ih hlast
  | @name kind n v v' hword _ _ _ _ h ih =>
    by_cases hv : v = []
    · subst hv
      rw [List.append_nil]
      cases hn : n.getLast? with
      | none => rfl
      | some c => exact not_isControlSign_of_isWordChar (hword.isWordChar c (List.mem_of_getLast? hn))
    · rw [getLast?_append_of_ne_nil _ (mt h.eq_nil_iff.mpr hv)] at hlast
      rw [getLast?_append_of_ne_nil _ hv]
      exact ih hlast

/-- The control signs of a closed expression are those of the expression. -/
lemma Spliced.body {inside inside' : Text} (h : Spliced captured .sign inside inside') :
    Spliced captured .sign (Span.split standard .expression (enclosed .expression inside)).body
      (Span.split standard .expression (enclosed .expression inside')).body := by
  obtain ⟨front, body', back, rfl, hsigned'⟩ := exists_signed inside'
  obtain ⟨other, rfl, hother⟩ : ∃ other, inside = front ++ other ∧
      Spliced captured .sign other (body' ++ back) := by
    obtain ⟨rfl, -⟩ | ⟨c, hc, rfl⟩ := hsigned'.front_eq
    · exact ⟨inside, rfl, h⟩
    · obtain rfl | rfl := eq_of_isControlSign hc
      · exact h.exists_behind (by decide)
      · exact h.exists_behind (by decide)
  obtain ⟨body, rfl, hbody⟩ : ∃ body, other = body ++ back ∧ Spliced captured .sign body body' := by
    obtain ⟨rfl, -⟩ | ⟨c, hc, rfl⟩ := hsigned'.back_eq
    · exact ⟨other, by simp, by simpa using hother⟩
    · obtain ⟨body, rest, rfl, hbody, hrest⟩ := hother.exists_cut
        (by obtain rfl | rfl := eq_of_isControlSign hc <;> decide) (by obtain rfl | rfl := eq_of_isControlSign hc <;> decide)
      obtain rfl := hrest.eq_nil_iff.mpr rfl
      exact ⟨body, rfl, hbody⟩
  have hsigned : Signed front body back :=
    ⟨hsigned'.front_eq.imp (And.imp_right hbody.head?_any) id,
      hsigned'.back_eq.imp (And.imp_right hbody.getLast?_any) id,
      fun hfront hnil => hsigned'.back_nil hfront (hbody.eq_nil_iff.mp hnil)⟩
  rwa [split_enclosed _ hsigned, split_enclosed _ hsigned']

lemma expression_notMem_heldPart (e held : Text) : .expression e ∉ heldPart held := by
  unfold heldPart
  split <;> simp

/-- In a text without braces no expression begins. -/
lemma partsFrom_append {front : Text} (hfront : '\x7b' ∉ front) (count : Nat) (held rest : Text) :
    partsFrom standard count held (front ++ rest) =
      partsFrom standard (count + front.length) (front.reverse ++ held) rest := by
  induction front generalizing count held with
  | nil => rfl
  | cons c front ih =>
    have hkind : Span.kindAt? standard (c :: (front ++ rest)) ≠ some .expression := by
      rw [Ne, Span.kindAt?_eq_some_iff]
      rintro ⟨more, hmore⟩
      exact hfront ((List.cons.inj hmore).1 ▸ .head _)
    rw [List.cons_append, partsFrom, if_neg hkind, ih fun hmem => hfront (.tail _ hmem)]
    simp [Nat.add_assoc, Nat.add_comm 1]

/-- An expression begins in a closed text where it began before. -/
lemma Spliced.kindAt?_eq {c : Char} (h : Spliced captured kind v v')
    (hkind : Span.kindAt? standard (c :: v) = some .expression) :
    Span.kindAt? standard (c :: v') = some .expression := by
  rw [Span.kindAt?_eq_some_iff] at hkind ⊢
  obtain ⟨more, hmore⟩ := hkind
  obtain ⟨rfl, hv⟩ : '\x7b' = c ∧ '\x7b' :: more = v := List.cons.inj hmore
  cases h with
  | nil => cases hv
  | @char _ d v v' =>
    obtain ⟨rfl, -⟩ := List.cons.inj hv
    exact ⟨v', rfl⟩
  | name hword =>
    cases hword with
    | intro hstart =>
      have hletter := (List.cons.inj hv).1 ▸ hstart.isWordChar
      exact absurd hletter (by decide)

/-- The expressions of a closed value are those of the value with names replaced. -/
lemma exists_partsFrom_of_spliced {count count' : Nat} {held held' : Text} {parts' : List ValuePart}
    (h : Spliced captured kind v v') (hparts : partsFrom standard count' held' v' = .ok parts') :
    ∃ parts, partsFrom standard count held v = .ok parts ∧
      ∀ e', .expression e' ∈ parts' → ∃ e, .expression e ∈ parts ∧ Spliced captured .sign e e' := by
  induction hlength : v.length using Nat.strongRecOn generalizing v v' kind count count' held held' parts' with
  | ind length ih =>
  subst hlength
  have hwhole := h
  cases h with
  | nil =>
    rw [partsFrom] at hparts ⊢
    cases hparts
    exact ⟨_, rfl, fun e' he' => absurd he' (expression_notMem_heldPart _ _)⟩
  | @name _ n v v' hword _ _ _ _ h =>
    have hno : '\x7b' ∉ n := fun hmem => absurd (hword.isWordChar _ hmem) (by decide)
    have hno' : '\x7b' ∉ lookup n := fun hmem =>
      (isWordChar_or_of_mem_lookup hword hmem).elim (by decide) (by decide)
    rw [partsFrom_append hno'] at hparts
    rw [partsFrom_append hno]
    refine ih _ ?_ h hparts rfl
    cases hword
    simp only [List.length_append, List.length_cons]
    omega
  | @char _ c v v' h =>
    by_cases hkind : Span.kindAt? standard (c :: v') = some .expression
    · obtain ⟨inside', behind', more', htext, hinside', hmore', rfl⟩ := exists_enclosed_of_partsFrom hkind hparts
      rw [htext] at hwhole
      obtain ⟨inside, behind, kind', htext', hinside, hbehind⟩ := hwhole.exists_enclosed
      have hspan : Span.Whole .expression (enclosed .expression inside) :=
        Span.whole_enclosed (hinside.inside .expression hinside') (by simp [Span.IsSkipped])
      have hshorter : behind.length < (c :: v).length := by
        rw [htext', List.length_append, Span.length_enclosed]
        omega
      obtain ⟨more, hmore, hexpressions⟩ :=
        @ih _ hshorter _ _ _ (count + (enclosed .expression inside).length) _ [] _ _ hbehind hmore' rfl
      rw [htext']
      refine ⟨_, (partsFrom_whole_eq_ok_iff hspan).mpr ⟨more, hmore, rfl⟩, fun e' he' => ?_⟩
      obtain hheld | he' := List.mem_append.mp he'
      · exact absurd hheld (expression_notMem_heldPart _ _)
      obtain heq | hmem := List.mem_cons.mp he'
      · obtain rfl := ValuePart.expression.inj heq
        exact ⟨_, List.mem_append_right _ (.head _), hinside.body.trim⟩
      · obtain ⟨e, he, hspliced⟩ := hexpressions e' hmem
        exact ⟨e, List.mem_append_right _ (.tail _ he), hspliced⟩
    · rw [partsFrom, if_neg hkind] at hparts
      rw [partsFrom, if_neg (mt h.kindAt?_eq hkind)]
      exact ih _ (by simp) h hparts rfl

/-- The expressions of a closed value are those of the value with names replaced. -/
lemma exists_valueParts_of_spliced {parts' : List ValuePart} {e' : Text} (h : Spliced captured kind v v')
    (hparts : valueParts standard v' = .ok parts') (he' : .expression e' ∈ parts') :
    ∃ parts e, valueParts standard v = .ok parts ∧ .expression e ∈ parts ∧ Spliced captured .sign e e' := by
  have hfrom : partsFrom standard 0 [] v' = .ok parts' := by
    unfold valueParts at hparts
    split at hparts
    · cases hparts
    · cases hparts
      simp at he'
    · rename_i hparts'
      cases hparts
      exact hparts'
  obtain ⟨parts, hvalue, hexpressions⟩ :=
    @exists_partsFrom_of_spliced _ _ _ _ 0 _ [] _ _ h hfrom
  obtain ⟨e, he, hspliced⟩ := hexpressions e' he'
  refine ⟨parts, e, ?_, he, hspliced⟩
  rw [valueParts, hvalue]
  cases parts with
  | nil => cases he
  | cons => rfl

/-- What the expressions of a closed value read is captured. -/
theorem mem_captured_of_reads_value {s : Scope} {value e : Text} {r : Captured}
    {parts : List ValuePart} (hno : UnreservedValue value) (hr : captureIn standard s value = .ok r)
    (hparts : valueParts standard r.text = .ok parts) (he : .expression e ∈ parts)
    (h : Reads (tokens e) name) : name ∈ r.captured := by
  obtain ⟨before, e₀, hbefore, he₀, hspliced⟩ :=
    exists_valueParts_of_spliced (spliced_captureIn hr .sign) hparts he
  exact hspliced.respelled.mem_captured (hno before hbefore e₀ he₀) h

end ComponentTags
