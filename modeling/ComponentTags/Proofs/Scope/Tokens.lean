/-
# Tokens by themselves

Nothing is lost when a text is read as tokens, and what is found does not depend on its place: each token
has characters, each is a token of the same kind by itself, and neighbours are never both blanks or both
names (`tokens_canonical`).  Two texts one after the other have the tokens of both, unless the last token
of the first one goes on with the first character of the second one (`tokens_append_eq_iff`).
-/
import ComponentTags.Proofs.Scope.Lexed

namespace ComponentTags

/-- Two tokens that are neither both blanks nor both names. -/
def Token.Apart (t u : Token) : Prop :=
  ¬(t.kind = .blank ∧ u.kind = .blank) ∧ ¬(t.kind = .name ∧ u.kind = .name)

variable {t u : Token} {ts : List Token} {behind : Text}

/-! ### One token -/

/-- A token is read as itself where nothing follows it. -/
lemma Token.EndsBefore.tokens_text (h : t.EndsBefore behind) : tokens t.text = [t] := by
  have halone := (Token.endsBefore_iff.mp h).1
  have htokens := tokens_append halone
  rwa [List.append_nil, tokens] at htokens

/-- Blanks go on with blanks, and names with names. -/
lemma Token.EndsBefore.apart (ht : t.EndsBefore (u.text ++ behind)) (hu : u.EndsBefore behind) :
    t.Apart u := by
  obtain ⟨-, hends⟩ := Token.endsBefore_iff.mp ht
  obtain ⟨c, rest, htext⟩ := List.exists_cons_of_ne_nil hu.text_ne_nil
  have hno : ¬t.GoesOn c := hends c (by rw [htext]; rfl)
  obtain ⟨kind, text⟩ := t
  constructor
  · rintro ⟨rfl, hblank⟩
    obtain ⟨-, hall⟩ | ⟨hsignificant, -⟩ := isBlank_iff_of_endsBefore hu
    · exact hno (hall c (by simp [htext]))
    · simp [Token.isSignificant, hblank] at hsignificant
  · rintro ⟨rfl, hname⟩
    have hword := isWord_of_endsBefore hu (by simp [Token.isName, hname])
    exact hno (hword.isWordChar c (by simp [htext]))

/-! ### All tokens of a text -/

lemma Lexed.tokens_text (h : Lexed ts) : ∀ t ∈ ts, tokens t.text = [t] := by
  induction h with
  | nil => simp
  | cons hend _ ih =>
    rintro u (_ | ⟨_, hu⟩)
    · exact hend.tokens_text
    · exact ih u hu

lemma Lexed.isChain_apart (h : Lexed ts) : ts.IsChain Token.Apart := by
  induction h with
  | nil => exact .nil
  | @cons t ts hend hrest ih =>
    cases hrest with
    | nil => exact .singleton t
    | cons hnext _ => exact .cons_cons (hend.apart hnext) ih

/-- The tokens of a text joined give it back, none is empty, no two neighbours are both blanks or both
names, and each token is read as itself. -/
theorem tokens_canonical (text : Text) :
    (tokens text).flatMap Token.text = text ∧
      (∀ t ∈ tokens text, t.text ≠ []) ∧
      (tokens text).IsChain Token.Apart ∧
      ∀ t ∈ tokens text, tokens t.text = [t] := by
  have hlexed := lexed_tokens text
  exact ⟨tokens_join text, tokens_ne_nil, hlexed.isChain_apart, hlexed.tokens_text⟩

/-- A digit that is no decimal one, three stars, and a literal that ends in a backslash. -/
theorem tokens_canonical_open :
    tokens "x² ***'a\\" =
        [⟨.name, "x²"⟩, ⟨.blank, " "⟩, ⟨.sign, "**"⟩, ⟨.sign, "*"⟩, ⟨.string, "'a\\"⟩] ∧
      tokens "'a\\" = [⟨.string, "'a\\"⟩] := by
  have htokens : tokens "x² ***'a\\" =
      [⟨.name, "x²"⟩, ⟨.blank, " "⟩, ⟨.sign, "**"⟩, ⟨.sign, "*"⟩, ⟨.string, "'a\\"⟩] := by
    with_unfolding_all rfl
  obtain ⟨-, -, -, hself⟩ := tokens_canonical "x² ***'a\\"
  exact ⟨htokens, hself ⟨.string, "'a\\"⟩ (by rw [htokens]; simp)⟩

/-! ### Two texts -/

/-- Two texts one after the other have the tokens of both if and only if the last token of the first one
does not go on with the second one. -/
theorem tokens_append_eq_iff (front behind : Text) :
    tokens (front ++ behind) = tokens front ++ tokens behind ↔
      ∀ t ∈ (tokens front).getLast?, ∀ x ∈ behind.head?, ¬t.GoesOn x := by
  have hfront := lexed_tokens front
  have hbehind := lexed_tokens behind
  constructor
  · intro heq
    have hlexed := lexed_tokens (front ++ behind)
    rw [heq, lexed_append_iff, tokens_join] at hlexed
    exact hlexed.2.2
  · intro hends
    have hlexed : Lexed (tokens front ++ tokens behind) :=
      lexed_append_iff.mpr ⟨hfront, hbehind, by rwa [tokens_join]⟩
    have htokens := hlexed.tokens_eq
    rwa [List.flatMap_append, tokens_join, tokens_join] at htokens

end ComponentTags
