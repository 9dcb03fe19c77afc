/-
# Tokens of a closed text

Read by itself, a closed text has the tokens of the text with look-ups in the places of names (`Respelled`),
also where the text is divided into literals and names in another way than it was when it was closed
(`Spliced.respelled`).  The only tokens without a counterpart stand between the parts of a literal that a
look-up has closed, and none of them begins a look-up.
-/
import ComponentTags.Proofs.Scope.Reopened

namespace ComponentTags

/-- The tokens of a text and those of the closed text. -/
inductive Respelled (captured : List Text) : List Token → List Token → Prop
  | nil : Respelled captured [] []
  /-- A token that is kept. -/
  | same {ts us : List Token} (t : Token) (h : Respelled captured ts us) :
      Respelled captured (t :: ts) (t :: us)
  /-- A name that is replaced. -/
  | name {n : Text} {ts us : List Token} (hcaptured : isCaptured n = true → n ∈ captured)
      (h : Respelled captured ts us) : Respelled captured (⟨.name, n⟩ :: ts) (lookupTokens n ++ us)
  /-- A literal that is closed and opened again. -/
  | literal {t : Token} {more ts us : List Token} (hmore : ∀ u ∈ more, u ≠ ⟨.name, contextName⟩)
      (h : Respelled captured ts us) : Respelled captured (t :: ts) (more ++ us)

variable {captured : List Text} {kind : TokenKind} {c d : Char} {rest v v' : Text}

/-! ### Single tokens -/

lemma tokens_run {run : Text} (h : (Token.shape c []).1 = kind) (hstring : kind ≠ .string) (hsign : kind ≠ .sign)
    (hrun : ∀ x ∈ run, runsOn kind x = true) (hrest : rest.head?.any (runsOn kind) = false) :
    tokens (c :: (run ++ rest)) = ⟨kind, c :: run⟩ :: tokens rest := by
  refine tokens_append (t := ⟨kind, c :: run⟩) ⟨c, run, rfl, ?_⟩
  rw [shape_of_run h hstring hsign, length_takeWhile_eq_iff.mpr ⟨hrun, hrest⟩]

lemma tokens_sign (h : (Token.shape c []).1 = .sign)
    (hpair : (rest.head?.any fun x => Token.pairs.contains [c, x]) = false) :
    tokens (c :: rest) = ⟨.sign, [c]⟩ :: tokens rest := by
  rw [tokens, shape_sign h, hpair]
  rfl

lemma tokens_pair (h : (Token.shape c []).1 = .sign) (hpair : [c, d] ∈ Token.pairs) (rest : Text) :
    tokens (c :: d :: rest) = ⟨.sign, [c, d]⟩ :: tokens rest := by
  rw [tokens, shape_sign h]
  simp [hpair]

lemma notMem_pairs_of_startsName (hd : startsName d) : [c, d] ∉ Token.pairs := by
  intro hpair
  have hkind := kindAfter_of_pair hpair
  rw [kindAfter_of_not_runsOn rfl [], shape_name hd] at hkind
  cases hkind

namespace Spliced

/-! ### Tokens of a closed text -/

/-- A token that runs on is kept in the closed text. -/
lemma exists_run (h : Spliced captured kind v v') :
    ∃ run u u', v = run ++ u ∧ v' = run ++ u' ∧ (∀ x ∈ run, runsOn kind x = true) ∧
      u.head?.any (runsOn kind) = false ∧ u'.head?.any (runsOn kind) = false ∧ Spliced captured kind u u' := by
  induction h with
  | nil => exact ⟨[], [], [], rfl, rfl, by simp, rfl, rfl, .nil⟩
  | @char kind c v v' h ih =>
    by_cases hc : runsOn kind c = true
    · rw [kindAfter, if_pos hc] at ih
      obtain ⟨run, u, u', rfl, rfl, hrun, hu, hu', hspliced⟩ := ih
      exact ⟨c :: run, u, u', rfl, rfl, List.forall_mem_cons.mpr ⟨hc, hrun⟩, hu, hu', hspliced⟩
    · exact ⟨[], c :: v, c :: v', rfl, rfl, by simp, by simpa using hc, by simpa using hc, h.char c⟩
  | @name kind n v v' hword hno hcaptured hfirst hbehind h =>
    -- neither the name nor the look-up goes on with the token in front
    have hlookup : (lookup n ++ v').head?.any (runsOn kind) = false := by
      have hg : startsName 'g' := ⟨by decide, by decide, by decide, by decide⟩
      cases hword with
      | intro hstart => simpa [head?_lookup] using runsOn_of_startsName hstart hg hfirst
    refine ⟨[], n ++ v, lookup n ++ v', rfl, rfl, by simp, ?_, hlookup,
      .name hword hno hcaptured hfirst hbehind h⟩
    cases hword
    exact hfirst

/-- The character behind a name begins no further part of it in the closed text either. -/
lemma head?_eq (h : Spliced captured kind v v') (hv : v.head?.any Text.isWordChar = false) :
    v'.head? = v.head? := by
  cases h with
  | nil | char => rfl
  | name hword =>
    cases hword with
    | intro hstart => simp [hstart.isWordChar] at hv

/-- A pair of signs is kept in the closed text, and no pair comes to be. -/
lemma pair_or (h : Spliced captured .sign v v') (c : Char) :
    (∃ d u u', v = d :: u ∧ v' = d :: u' ∧ [c, d] ∈ Token.pairs ∧ Spliced captured .sign u u') ∨
      (v.head?.any fun x => Token.pairs.contains [c, x]) = false ∧
        (v'.head?.any fun x => Token.pairs.contains [c, x]) = false := by
  cases h with
  | nil => exact .inr ⟨rfl, rfl⟩
  | @char _ d v v' h =>
    by_cases hpair : [c, d] ∈ Token.pairs
    · rw [kindAfter_of_pair hpair] at h
      exact .inl ⟨d, v, v', rfl, rfl, hpair, h⟩
    · exact .inr ⟨by simpa using hpair, by simpa using hpair⟩
  | @name _ n v v' hword =>
    have hg : startsName 'g' := ⟨by decide, by decide, by decide, by decide⟩
    cases hword with
    | intro hstart =>
      exact .inr ⟨by simpa using notMem_pairs_of_startsName hstart,
        by simpa [head?_lookup] using notMem_pairs_of_startsName hg⟩

/-- In front of a closed text a literal is closed where it was closed before. -/
lemma respelled_quote (h : Spliced captured kind v v') (hquote : Span.isQuote c = true)
    (hbehind : ∀ u u', behindLiteral? c false v = some u → Spliced captured .sign u u' →
      Respelled captured (tokens u) (tokens u')) :
    Respelled captured (tokens (c :: v)) (tokens (c :: v')) := by
  obtain ⟨literal, htext⟩ := exists_tokens_quote hquote v
  obtain ⟨literal', hclosed⟩ := exists_tokens_quote hquote v'
  obtain ⟨o, hreopened, hrel⟩ := h.exists_reopened hquote false
  obtain ⟨ts, hts, heq⟩ := hreopened.exists_tokens
  rw [htext, hclosed, heq, ← List.cons_append]
  refine .literal (List.forall_mem_cons.mpr ⟨by simp, hts⟩) ?_
  generalize hfirst : behindLiteral? c false v = first at hrel
  cases hrel with
  | none => exact .nil
  | some hspliced => exact hbehind _ _ hfirst (hspliced.restart (by cases List.head? _ <;> rfl))

/-- Read by itself, a closed text has the tokens of the text but for names and literals. -/
theorem respelled (h : Spliced captured .sign v v') : Respelled captured (tokens v) (tokens v') := by
  induction hlength : v.length using Nat.strongRecOn generalizing v v' with
  | ind length ih =>
  subst hlength
  cases h with
  | nil =>
    rw [tokens]
    exact .nil
  | @name _ n v v' hword hno hcaptured _ hbehind h =>
    have htext : tokens (n ++ v) = ⟨.name, n⟩ :: tokens v :=
      tokens_append ((endsBefore_name_iff hword).mpr hbehind)
    have hclosed : tokens (lookup n ++ v') = lookupTokens n ++ tokens v' := by
      have hlexed := Lexed.lookup hword (lexed_tokens v') (by rwa [tokens_join, h.head?_eq hbehind])
      rw [← hlexed.tokens_eq, List.flatMap_append, lookupTokens_join, tokens_join]
    rw [htext, hclosed]
    refine .name hcaptured (ih _ ?_ (h.restart hbehind) rfl)
    cases hword
    simp only [List.length_append, List.length_cons]
    omega
  | @char _ c v v' h =>
    rw [kindAfter_of_not_runsOn rfl []] at h
    have hkept {kind : TokenKind} (hkind : (Token.shape c []).1 = kind) (hstring : kind ≠ .string)
        (hsign : kind ≠ .sign) (h : Spliced captured kind v v') :
        Respelled captured (tokens (c :: v)) (tokens (c :: v')) := by
      obtain ⟨run, u, u', rfl, rfl, hrun, hu, hu', hspliced⟩ := h.exists_run
      rw [tokens_run hkind hstring hsign hrun hu, tokens_run hkind hstring hsign hrun hu']
      refine .same _ (ih _ ?_ (hspliced.restart hu) rfl)
      simp only [List.length_cons, List.length_append]
      omega
    cases hkind : (Token.shape c []).1 with
    | blank => exact hkept hkind (by simp) (by simp) (hkind ▸ h)
    | number => exact hkept hkind (by simp) (by simp) (hkind ▸ h)
    | name => exact hkept hkind (by simp) (by simp) (hkind ▸ h)
    | sign =>
      rw [hkind] at h
      obtain ⟨d, u, u', rfl, rfl, hpair, hspliced⟩ | ⟨hno, hno'⟩ := h.pair_or c
      · rw [tokens_pair hkind hpair, tokens_pair hkind hpair]
        exact .same _ (ih _ (by simp only [List.length_cons]; omega) hspliced rfl)
      · rw [tokens_sign hkind hno, tokens_sign hkind hno']
        exact .same _ (ih _ (by simp) h rfl)
    | string =>
      have hquote : Span.isQuote c = true := by
        unfold Token.shape at hkind
        split_ifs at hkind with hblank hquote
        exact hquote
      refine h.respelled_quote hquote fun u u' hbehind hspliced => ih _ ?_ hspliced rfl
      have hlength := length_le_of_behindLiteral? hquote hbehind
      rw [List.length_cons]
      omega

end Spliced

end ComponentTags
