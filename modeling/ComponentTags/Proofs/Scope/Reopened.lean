/-
# Literals in a closed text

What was a name when a text was closed may stand in a string literal for a later reading.  A look-up has
quotes of its own, so in the closed text such a literal is closed in front of the name that is looked up
and opened again behind it (`Reopened`).  In the end it is closed where it was closed before
(`Spliced.exists_reopened`), and the spans of the closed text end where they ended before
(`Spliced.inside`).
-/
import ComponentTags.Proofs.Scope.Spliced

namespace ComponentTags

open ComponentTags.Span (Inside Literal)

/-! ### Open literals -/

/-- The text behind an open string literal, if the literal is closed; `escaped` says whether a backslash
stands in front. -/
def behindLiteral? (quote : Char) : Bool → Text → Option Text
  | _, [] => none
  | true, _ :: rest => behindLiteral? quote false rest
  | false, c :: rest =>
    if c = '\\' then behindLiteral? quote true rest
    else if c = quote then some rest
    else behindLiteral? quote false rest

variable {quote c : Char} {front text behind stop : Text} {escaped : Bool} {depth : Nat}

lemma behindLiteral?_eq_some_iff (hquote : quote ≠ '\\') :
    behindLiteral? quote false text = some behind ↔ ∃ front, text = front ++ behind ∧ Literal quote front := by
  constructor
  · have hclosed (escaped : Bool) (h : behindLiteral? quote escaped text = some behind) :
        ∃ front, text = front ++ behind ∧ Literal quote (if escaped then '\\' :: front else front) := by
      fun_induction behindLiteral? quote escaped text with
      | case1 => cases h
      | case2 c rest ih =>
        obtain ⟨front, rfl, hfront⟩ := ih h
        exact ⟨c :: front, rfl, .escaped hfront⟩
      | case3 rest ih =>
        obtain ⟨front, rfl, hfront⟩ := ih h
        exact ⟨'\\' :: front, rfl, hfront⟩
      | case4 rest hne =>
        cases h
        exact ⟨[quote], rfl, .close⟩
      | case5 c rest hbackslash hne ih =>
        obtain ⟨front, rfl, hfront⟩ := ih h
        exact ⟨c :: front, rfl, .char hbackslash hne hfront⟩
    exact hclosed false
  · rintro ⟨front, rfl, hfront⟩
    induction hfront with
    | close => simp [behindLiteral?, hquote]
    | escaped _ ih => simpa [behindLiteral?] using ih
    | char hc hne _ ih => simpa [behindLiteral?, hc, hne] using ih

lemma length_le_of_behindLiteral? (hquote : Span.isQuote quote = true)
    (h : behindLiteral? quote false text = some behind) : behind.length ≤ text.length := by
  obtain ⟨front, rfl, -⟩ := (behindLiteral?_eq_some_iff (Span.ne_backslash_of_isQuote hquote)).mp h
  simp

/-- A literal is still open behind characters that are no quotes and no backslashes. -/
lemma behindLiteral?_append (hfront : ∀ c ∈ front, c ≠ '\\' ∧ c ≠ quote) (hne : front ≠ []) :
    behindLiteral? quote escaped (front ++ text) = behindLiteral? quote false text := by
  induction front generalizing escaped with
  | nil => exact absurd rfl hne
  | cons c front ih =>
    rw [List.forall_mem_cons] at hfront
    have hstep : behindLiteral? quote escaped (c :: (front ++ text)) =
        behindLiteral? quote false (front ++ text) := by
      cases escaped with
      | true => rfl
      | false => rw [behindLiteral?, if_neg hfront.1.1, if_neg hfront.1.2]
    rw [List.cons_append, hstep]
    by_cases hnil : front = []
    · rw [hnil, List.nil_append]
    · exact ih hfront.2 hnil

/-- A string literal is one token. -/
lemma exists_tokens_quote (hquote : Span.isQuote c = true) (text : Text) :
    ∃ literal, tokens (c :: text) = ⟨.string, literal⟩ :: (behindLiteral? c false text).elim [] tokens := by
  have hne := Span.ne_backslash_of_isQuote hquote
  have hblank : Text.isBlank c = false := by
    obtain rfl | rfl := Span.isQuote_iff.mp hquote <;> decide
  have hshape : Token.shape c text = (.string, Span.literalLength c 0 text) := by
    simp [Token.shape, hblank, hquote]
  rw [tokens, hshape]
  refine ⟨_, congrArg (_ :: ·) ?_⟩
  cases hbehind : behindLiteral? c false text with
  | some behind =>
    obtain ⟨front, rfl, hfront⟩ := (behindLiteral?_eq_some_iff hne).mp hbehind
    rw [hfront.length_eq hne, Nat.zero_add, List.drop_left]
    rfl
  | none =>
    obtain ⟨front, behind, rfl, hfront, -⟩ | hlength := Span.literal_or_length_eq c 0 text
    · rw [(behindLiteral?_eq_some_iff hne).mpr ⟨front, rfl, hfront⟩] at hbehind
      cases hbehind
    · rw [hlength, Nat.zero_add, List.drop_length, tokens]
      rfl

/-- The inside of a span behind the opening quote of a literal. -/
lemma inside_quote_iff_behind (hquote : Span.isQuote c = true) :
    Inside stop depth (c :: text) ↔ ∃ behind ∈ behindLiteral? c false text, Inside stop depth behind := by
  simp only [inside_quote_iff hquote, Option.mem_def,
    behindLiteral?_eq_some_iff (Span.ne_backslash_of_isQuote hquote)]
  constructor
  · rintro ⟨front, behind, rfl, hfront, hbehind⟩
    exact ⟨behind, ⟨front, rfl, hfront⟩, hbehind⟩
  · rintro ⟨behind, ⟨front, rfl, hfront⟩, hbehind⟩
    exact ⟨front, behind, rfl, hfront, hbehind⟩

/-! ### Literals that are opened again -/

/-- What is behind a literal, and what is behind the last of the literals that go on behind names. -/
inductive Reopened : Option Text → Option Text → Prop
  | refl (o : Option Text) : Reopened o o
  /-- Behind a name a literal is open again. -/
  | name {n rest : Text} {o : Option Text} (hword : IsWord n) (hno : isReserved n = false)
      (h : Reopened (behindLiteral? '"' false rest) o) : Reopened (some (n ++ '"' :: rest)) o

variable {o o' : Option Text}

/-- The tokens up to the last literal are literals and names that are not reserved. -/
lemma Reopened.exists_tokens (h : Reopened o o') :
    ∃ ts, (∀ t ∈ ts, t ≠ ⟨.name, contextName⟩) ∧ o.elim [] tokens = ts ++ o'.elim [] tokens := by
  induction h with
  | refl => exact ⟨[], by simp, rfl⟩
  | @name n rest o hword hno _ ih =>
    obtain ⟨ts, hts, heq⟩ := ih
    obtain ⟨literal, hliteral⟩ := exists_tokens_quote (c := '"') (by decide) rest
    have hname : tokens (n ++ '"' :: rest) = ⟨.name, n⟩ :: tokens ('"' :: rest) :=
      tokens_append ((endsBefore_name_iff hword).mpr rfl)
    refine ⟨⟨.name, n⟩ :: ⟨.string, literal⟩ :: ts, ?_, ?_⟩
    · simp only [List.forall_mem_cons]
      refine ⟨fun heq => ?_, by simp, hts⟩
      rw [(Token.mk.inj heq).2] at hno
      exact absurd hno (by decide)
    · rw [Option.elim_some, hname, hliteral, heq]
      rfl

/-- A span that goes on behind a literal goes on behind the last of the literals. -/
lemma Reopened.exists_inside (hstop : IsStop stop) (h : Reopened o o')
    (hinside : ∃ text ∈ o, Inside stop depth text) : ∃ text ∈ o', Inside stop depth text := by
  induction h with
  | refl => exact hinside
  | @name n rest o hword _ _ ih =>
    obtain ⟨_, ⟨⟩, hinside⟩ := hinside
    rw [inside_append_iff hstop fun x hx => isPlain_of_isWordChar (hword.isWordChar x hx)] at hinside
    exact ih ((inside_quote_iff_behind (by decide)).mp hinside)

variable {captured : List Text} {kind : TokenKind} {v v' : Text}

/-- The characters of a name leave a literal open. -/
lemma IsWord.ne_quote {n : Text} (hword : IsWord n) (hquote : Span.isQuote quote = true) :
    ∀ c ∈ n, c ≠ '\\' ∧ c ≠ quote := by
  refine fun c hc => ⟨?_, ?_⟩
  · rintro rfl
    exact absurd (hword.isWordChar _ hc) (by decide)
  · rintro rfl
    obtain ⟨hno, -⟩ := isPlain_of_isWordChar (hword.isWordChar _ hc)
    rw [hquote] at hno
    cases hno

/-- A look-up without the quote of a literal leaves the literal open, and any other one opens it again. -/
lemma reopened_lookup {n : Text} (hquote : Span.isQuote quote = true) (hword : IsWord n)
    (hno : isReserved n = false) (h : Reopened (behindLiteral? quote false text) o) :
    Reopened (behindLiteral? quote escaped (lookup n ++ text)) o := by
  obtain hsingle | hdouble := Span.isQuote_iff.mp hquote
  · subst hsingle
    have hplain : ∀ c ∈ lookup n, c ≠ '\\' ∧ c ≠ '\'' := by
      intro c hc
      obtain hc | hc := isWordChar_or_of_mem_lookup hword hc
      · exact ⟨by rintro rfl; exact absurd hc (by decide), by rintro rfl; exact absurd hc (by decide)⟩
      · exact forall_mem_of_all (p := fun x => x ≠ '\\' ∧ x ≠ '\'') (by decide) c hc
    rwa [behindLiteral?_append hplain fun hnil => by simpa [hnil] using head?_lookup n]
  · subst hdouble
    unfold lookup
    split
    · rwa [behindLiteral?_append (forall_mem_of_all (by decide)) (by decide)]
    split
    · rwa [behindLiteral?_append (forall_mem_of_all (by decide)) (by decide)]
    · have hlookup : contextName ++ ".locals[\"" ++ n ++ "\"]" ++ text =
          (contextName ++ ".locals[") ++ '"' :: (n ++ '"' :: ']' :: text) := by
        simp only [List.append_assoc]
        rfl
      rw [hlookup, behindLiteral?_append (forall_mem_of_all (by decide)) (by decide)]
      exact .name hword hno h

/-- A literal of a text is closed in the closed text where it was closed before, but it may have been
opened again in between. -/
theorem Spliced.exists_reopened (h : Spliced captured kind v v') (hquote : Span.isQuote quote = true)
    (escaped : Bool) :
    ∃ o, Reopened (behindLiteral? quote escaped v') o ∧
      Option.Rel (Spliced captured .string) (behindLiteral? quote escaped v) o := by
  induction h generalizing escaped with
  | nil => exact ⟨none, .refl _, by rw [behindLiteral?]; exact .none⟩
  | @char kind c v v' h ih =>
    cases escaped with
    | true => exact ih false
    | false =>
      rw [behindLiteral?, behindLiteral?]
      split
      · exact ih true
      split
      · rename_i hc
        rw [hc, kindAfter_of_isQuote hquote] at h
        exact ⟨some v', .refl _, .some h⟩
      · exact ih false
  | @name kind n v v' hword hno _ _ _ _ ih =>
    obtain ⟨o, ho, hrel⟩ := ih false
    refine ⟨o, reopened_lookup hquote hword hno ho, ?_⟩
    rwa [behindLiteral?_append (hword.ne_quote hquote) (by cases hword; simp)]

/-! ### Spans -/

/-- The closing delimiter is met in front of a closed text where it was met before. -/
lemma Spliced.meets_of_meets (hstop : IsStop stop) (h : Spliced captured kind v v')
    (hmet : stop <+: c :: (v ++ stop)) : stop <+: c :: (v' ++ stop) := by
  rw [hstop.prefix_iff] at hmet ⊢
  cases h with
  | nil | char => exact hmet
  | name hword =>
    -- no name begins like a closing delimiter
    cases hword with
    | intro hstart =>
      rw [List.cons_append, List.head?_cons, Option.some_or, Option.some.injEq] at hmet
      have hword := hstart.isWordChar
      rw [hmet.2] at hword
      exact absurd hword (by decide)

/-- What is inside of a span of a closed text was inside of a span before. -/
theorem Spliced.inside (hstop : IsStop stop) (h : Spliced captured kind v v') (hinside : Inside stop depth v') :
    Inside stop depth v := by
  induction hlength : v.length using Nat.strongRecOn generalizing v v' kind depth with
  | ind length ih =>
  subst hlength
  cases h with
  | nil => exact hinside
  | @char _ c v v' h =>
    by_cases hquote : Span.isQuote c = true
    · rw [inside_quote_iff_behind hquote] at hinside ⊢
      obtain ⟨o, hreopened, hrel⟩ := h.exists_reopened hquote false
      obtain ⟨text', hmem, hinside⟩ := hreopened.exists_inside hstop hinside
      generalize hbehind : behindLiteral? c false v = closed at hrel
      cases hrel with
      | none => cases hmem
      | some hspliced =>
        obtain ⟨⟩ := hmem
        have hlength := length_le_of_behindLiteral? hquote hbehind
        refine ⟨_, rfl, ih _ ?_ hspliced hinside rfl⟩
        rw [List.length_cons]
        omega
    · rw [inside_cons_iff (by simpa using hquote)] at hinside ⊢
      exact ⟨fun hdepth hmet => hinside.1 hdepth (h.meets_of_meets hstop hmet),
        ih _ (by simp) h hinside.2 rfl⟩
  | @name _ n v v' hword _ _ _ _ h =>
    have hplain := fun x hx => isPlain_of_isWordChar (hword.isWordChar x hx)
    rw [inside_append_iff hstop hplain]
    refine ih _ ?_ h ((inside_lookup_iff hstop hword).mp hinside) rfl
    cases hword
    simp only [List.length_append, List.length_cons]
    omega

end ComponentTags
