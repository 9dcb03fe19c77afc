/-
# Tokens of a replaced text

Where a token ends depends on the character behind it and on nothing else (`Token.endsBefore_iff`), so
texts can be put together as long as no token goes on with the next one (`lexed_append_iff`).  A look-up
begins like a name and ends with a character that no token goes on with, so a text in which names are
replaced by look-ups has the tokens of the text, with the tokens of a look-up in the place of each
replaced name (`tokens_replacedText`).
-/
import ComponentTags.Scope.Substitution
import ComponentTags.Proofs.Span.Local

namespace ComponentTags

open ComponentTags.Span (Literal)

/-! ### Characters of names -/

lemma forall_mem_of_all {p : Char → Prop} [DecidablePred p] {text : Text}
    (h : text.all (fun c => decide (p c)) = true) : ∀ c ∈ text, p c := by
  simpa using h

/-- Whether a name begins with a character. -/
def startsName (c : Char) : Prop :=
  Text.isBlank c = false ∧ Span.isQuote c = false ∧ Text.isDigit c = false ∧
    (Text.isLetter c || c == '_') = true

/-- The text of a name: a first character of names and any number of further ones. -/
inductive IsWord : Text → Prop
  | intro {c : Char} {rest : Text} (hstart : startsName c)
      (hrest : ∀ x ∈ rest, Text.isWordChar x = true) : IsWord (c :: rest)

lemma isAlphanumeric_of_isLetter {c : Char} (h : Text.isLetter c = true) :
    Text.isAlphanumeric c = true := by
  unfold Text.isLetter at h
  unfold Text.isAlphanumeric
  split
  · rename_i hascii
    rw [if_pos hascii] at h
    simp [Char.isAlphanum, h]
  · rename_i hascii
    rw [if_neg hascii] at h
    simp [h]

lemma startsName.isWordChar {c : Char} (h : startsName c) : Text.isWordChar c = true := by
  obtain ⟨-, -, -, hletter⟩ := h
  rw [Bool.or_eq_true] at hletter
  rw [Text.isWordChar, Bool.or_eq_true]
  exact hletter.imp isAlphanumeric_of_isLetter id

lemma startsName.isNumberChar {c : Char} (h : startsName c) : Token.isNumberChar c = true := by
  have hword := h.isWordChar
  rw [Text.isWordChar, Bool.or_eq_true] at hword
  rw [Token.isNumberChar]
  rcases hword with halpha | hunderscore
  · simp [halpha]
  · simp [hunderscore]

lemma IsWord.isWordChar {name : Text} (h : IsWord name) : ∀ c ∈ name, Text.isWordChar c = true := by
  obtain ⟨hstart, hrest⟩ := h
  rintro x (_ | ⟨_, hx⟩)
  · exact hstart.isWordChar
  · exact hrest x hx

/-! ### The end of a token -/

/-- A token ends where a text begins. -/
def Token.EndsBefore (t : Token) (behind : Text) : Prop :=
  ∃ c rest, t.text = c :: rest ∧ Token.shape c (rest ++ behind) = (t.kind, rest.length)

lemma Token.EndsBefore.text_ne_nil {t : Token} {behind : Text} (h : t.EndsBefore behind) : t.text ≠ [] := by
  obtain ⟨c, rest, htext, -⟩ := h
  simp [htext]

lemma tokens_append {t : Token} {behind : Text} (h : t.EndsBefore behind) :
    tokens (t.text ++ behind) = t :: tokens behind := by
  obtain ⟨kind, text⟩ := t
  obtain ⟨c, rest, rfl, hshape⟩ := h
  rw [List.cons_append, tokens, hshape, List.take_left, List.drop_left]

/-- Every token of a list ends where the next one begins. -/
inductive Lexed : List Token → Prop
  | nil : Lexed []
  | cons {t : Token} {ts : List Token} (hend : t.EndsBefore (ts.flatMap Token.text))
      (hrest : Lexed ts) : Lexed (t :: ts)

/-- A token does not reach over the end of the text. -/
lemma shape_le (c : Char) (rest : Text) : (Token.shape c rest).2 ≤ rest.length := by
  unfold Token.shape
  split
  · exact (List.takeWhile_prefix _).length_le
  split
  · obtain ⟨front, behind, hrest, -, hlength⟩ | hlength := Span.literal_or_length_eq c 0 rest
    · simp only [hlength]
      subst hrest
      simp
    · simp [hlength]
  split
  · exact (List.takeWhile_prefix _).length_le
  split
  · exact (List.takeWhile_prefix _).length_le
  · split
    · rename_i hpair
      cases rest with
      | nil => simp [Token.pairs] at hpair
      | cons x rest => simp
    · exact Nat.zero_le _

lemma lexed_tokens (text : Text) : Lexed (tokens text) := by
  fun_induction tokens text with
  | case1 => exact .nil
  | case2 c rest ih =>
    refine .cons ⟨c, rest.take (Token.shape c rest).2, rfl, ?_⟩ ih
    rw [tokens_join, List.take_append_drop, List.length_take, Nat.min_eq_left (shape_le c rest)]

lemma Lexed.tokens_eq {ts : List Token} (h : Lexed ts) : tokens (ts.flatMap Token.text) = ts := by
  induction h with
  | nil => rw [List.flatMap_nil, tokens]
  | cons hend _ ih => rw [List.flatMap_cons, tokens_append hend, ih]

/-! #### Kinds of tokens -/

variable {c : Char} {name rest behind other : Text}

lemma length_takeWhile_eq_iff {p : Char → Bool} :
    ((rest ++ behind).takeWhile p).length = rest.length ↔
      (∀ x ∈ rest, p x = true) ∧ behind.head?.any p = false := by
  induction rest with
  | nil =>
    cases behind with
    | nil => simp
    | cons c behind => by_cases hc : p c = true <;> simp [hc]
  | cons c rest ih =>
    by_cases hc : p c = true
    · simp [hc, ih]
    · simp [hc]

lemma shape_name (h : startsName c) (rest : Text) :
    Token.shape c rest = (.name, (rest.takeWhile Text.isWordChar).length) := by
  obtain ⟨hblank, hquote, hdigit, hletter⟩ := h
  simp only [Token.shape, hblank, hquote, hdigit, hletter, Bool.false_eq_true, if_false, if_true]

/-- A name ends in front of a character that no name goes on with. -/
lemma endsBefore_name_iff (h : IsWord name) :
    Token.EndsBefore ⟨.name, name⟩ behind ↔ behind.head?.any Text.isWordChar = false := by
  obtain ⟨hstart, hrest⟩ := h
  constructor
  · rintro ⟨c, rest, heq, hshape⟩
    cases heq
    rw [shape_name hstart, Prod.mk.injEq, length_takeWhile_eq_iff] at hshape
    exact hshape.2.2
  · intro hbehind
    refine ⟨_, _, rfl, ?_⟩
    rw [shape_name hstart, Prod.mk.injEq, length_takeWhile_eq_iff]
    exact ⟨rfl, hrest, hbehind⟩

lemma isWord_of_endsBefore {t : Token} (h : t.EndsBefore behind) (hname : t.isName = true) :
    IsWord t.text := by
  obtain ⟨c, rest, htext, hshape⟩ := h
  have hkind : t.kind = .name := by simpa [Token.isName] using hname
  rw [hkind] at hshape
  rw [htext]
  unfold Token.shape at hshape
  split at hshape
  · cases hshape
  split at hshape
  · cases hshape
  split at hshape
  · cases hshape
  split at hshape
  · rename_i hblank hquote hdigit hletter
    simp only [Prod.mk.injEq, true_and, length_takeWhile_eq_iff] at hshape
    exact ⟨⟨by simpa using hblank, by simpa using hquote, by simpa using hdigit, hletter⟩, hshape.1⟩
  · cases hshape

/-- Blanks are a token of their own. -/
lemma isBlank_iff_of_endsBefore {t : Token} {behind : Text} (h : t.EndsBefore behind) :
    (t.isSignificant = false ∧ ∀ c ∈ t.text, Text.isBlank c = true) ∨
      (t.isSignificant = true ∧ ∃ c rest, t.text = c :: rest ∧ Text.isBlank c = false) := by
  obtain ⟨c, rest, htext, hshape⟩ := h
  by_cases hblank : Text.isBlank c = true
  · left
    rw [Token.shape, if_pos hblank, Prod.mk.injEq, length_takeWhile_eq_iff] at hshape
    refine ⟨by simp [Token.isSignificant, ← hshape.1], ?_⟩
    rw [htext]
    rintro x (_ | ⟨_, hx⟩)
    · exact hblank
    · exact hshape.2.1 x hx
  · right
    refine ⟨?_, c, rest, htext, by simpa using hblank⟩
    rw [Token.shape, if_neg hblank] at hshape
    have hkind : t.kind ≠ .blank := by
      intro hkind
      rw [hkind] at hshape
      split at hshape
      · cases hshape
      split at hshape
      · cases hshape
      split at hshape <;> cases hshape
    simpa [Token.isSignificant] using hkind

/-- A string literal with its closing quote ends there. -/
lemma endsBefore_string {text : Text} (hquote : Span.isQuote c = true) (htext : Literal c text)
    (behind : Text) : Token.EndsBefore ⟨.string, c :: text⟩ behind := by
  refine ⟨c, text, rfl, ?_⟩
  have hblank : Text.isBlank c = false := by
    rcases Span.isQuote_iff.mp hquote with rfl | rfl <;> decide
  simp only [Token.shape, hblank, hquote, Bool.false_eq_true, if_false, if_true,
    htext.length_eq (Span.ne_backslash_of_isQuote hquote), Nat.zero_add]

/-- Two signs stay together as a pair or not at all. -/
lemma any_pairs_isPrefixOf (c : Char) (rest : Text) :
    Token.pairs.any (·.isPrefixOf (c :: rest)) =
      rest.head?.any fun x => Token.pairs.contains [c, x] := by
  rw [Bool.eq_iff_iff]
  cases rest with
  | nil => simp [Token.pairs, List.isPrefixOf]
  | cons x rest => simp [Token.pairs, List.isPrefixOf, @eq_comm _ c, @eq_comm _ x]

/-- A sign that begins no pair ends at once. -/
lemma endsBefore_sign (hblank : Text.isBlank c = false) (hquote : Span.isQuote c = false)
    (hdigit : Text.isDigit c = false) (hletter : (Text.isLetter c || c == '_') = false)
    (hpair : Token.pairs.any (·.head? == some c) = false) (behind : Text) :
    Token.EndsBefore ⟨.sign, [c]⟩ behind := by
  refine ⟨c, [], rfl, ?_⟩
  have hno : Token.pairs.any (·.isPrefixOf (c :: behind)) = false := by
    rw [List.any_eq_false] at hpair ⊢
    intro p hp hbegins
    refine hpair p hp ?_
    cases p with
    | nil => exact absurd hp (by decide)
    | cons x p =>
      simp only [List.isPrefixOf, Bool.and_eq_true, beq_iff_eq] at hbegins
      simp [hbegins.1]
  simp only [Token.shape, hblank, hquote, hdigit, hletter, Bool.false_eq_true, if_false,
    List.nil_append, hno, List.length_nil]

/-! ### What a token goes on with -/

/-- A character that follows a token would belong to it.  A string literal without its closing quote goes
on with every character. -/
def Token.GoesOn (t : Token) (x : Char) : Prop :=
  match t.kind with
  | .blank => Text.isBlank x = true
  | .string => ¬∃ quote text, t.text = quote :: text ∧ Literal quote text
  | .number => Token.isNumberChar x = true
  | .name => Text.isWordChar x = true
  | .sign => t.text ++ [x] ∈ Token.pairs

/-- A run of characters of a class ends in front of a text if it ends by itself and the text does not begin
with a character of the class. -/
lemma length_takeWhile_append_iff {p : Char → Bool} :
    ((rest ++ behind).takeWhile p).length = rest.length ↔
      ((rest ++ []).takeWhile p).length = rest.length ∧ ∀ x ∈ behind.head?, ¬p x = true := by
  rw [length_takeWhile_eq_iff, length_takeWhile_eq_iff]
  cases behind <;> simp

/-- A string literal ends in front of a text if it has its closing quote, or if there is no text. -/
lemma literalLength_append_iff (hquote : c ≠ '\\') :
    Span.literalLength c 0 (rest ++ behind) = rest.length ↔
      Span.literalLength c 0 (rest ++ []) = rest.length ∧ ∀ x ∈ behind.head?, Literal c rest := by
  constructor
  · intro hlength
    obtain ⟨front, more, heq, hfront, hfrontLength⟩ | hwhole :=
      Span.literal_or_length_eq c 0 (rest ++ behind)
    · obtain ⟨rfl, -⟩ := List.append_inj heq (by omega)
      exact ⟨by simpa using hfront.length_eq hquote 0 [], fun _ _ => hfront⟩
    · -- the literal goes up to the end of the text
      rw [hlength, List.length_append] at hwhole
      obtain rfl : behind = [] := List.eq_nil_of_length_eq_zero (by omega)
      exact ⟨hlength, fun x hx => by cases hx⟩
  · rintro ⟨hlength, hclosed⟩
    cases behind with
    | nil => exact hlength
    | cons x behind => rw [(hclosed x rfl).length_eq hquote, Nat.zero_add]

/-- A sign ends in front of a text if it ends by itself and is no pair with the first character. -/
lemma pairLength_append_iff :
    (if Token.pairs.any (·.isPrefixOf (c :: (rest ++ behind))) then 1 else 0) = rest.length ↔
      (if Token.pairs.any (·.isPrefixOf (c :: (rest ++ []))) then 1 else 0) = rest.length ∧
        ∀ x ∈ behind.head?, (c :: rest) ++ [x] ∉ Token.pairs := by
  rw [any_pairs_isPrefixOf, any_pairs_isPrefixOf]
  cases rest with
  | nil => cases behind <;> simp
  | cons y rest =>
    -- with a third character it is no pair
    have hlong : ∀ x, (c :: y :: rest) ++ [x] ∉ Token.pairs := by
      intro x hx
      have hlength : ∀ p ∈ Token.pairs, p.length = 2 := by decide
      simpa using hlength _ hx
    simp only [List.cons_append, List.head?_cons] at hlong ⊢
    exact (and_iff_left fun x _ => hlong x).symm

/-- A token ends in front of a text if it is a token by itself and the text does not begin with a
character that the token goes on with. -/
lemma Token.endsBefore_iff {t : Token} :
    t.EndsBefore behind ↔ t.EndsBefore [] ∧ ∀ x ∈ behind.head?, ¬t.GoesOn x := by
  obtain ⟨kind, text⟩ := t
  cases text with
  | nil => simp [Token.EndsBefore]
  | cons c rest =>
    have hends : ∀ other, Token.EndsBefore ⟨kind, c :: rest⟩ other ↔
        Token.shape c (rest ++ other) = (kind, rest.length) := by
      intro other
      constructor
      · rintro ⟨_, _, ⟨⟩, hshape⟩
        exact hshape
      · exact fun hshape => ⟨c, rest, rfl, hshape⟩
    -- the kind does not depend on what follows
    have hsame : ∀ {k : TokenKind} {n m : Nat} {P : Prop},
        (k = kind → (n = rest.length ↔ m = rest.length ∧ P)) →
          ((k, n) = (kind, rest.length) ↔ (k, m) = (kind, rest.length) ∧ P) := by
      intro k n m P hlength
      rw [Prod.mk.injEq, Prod.mk.injEq, and_assoc]
      exact and_congr_right hlength
    rw [hends, hends]
    unfold Token.shape
    split
    · refine hsame ?_
      rintro rfl
      exact length_takeWhile_append_iff
    split
    · rename_i hquote
      refine hsame ?_
      rintro rfl
      rw [literalLength_append_iff (Span.ne_backslash_of_isQuote hquote)]
      simp [Token.GoesOn]
    split
    · refine hsame ?_
      rintro rfl
      exact length_takeWhile_append_iff
    split
    · refine hsame ?_
      rintro rfl
      exact length_takeWhile_append_iff
    · refine hsame ?_
      rintro rfl
      exact pairLength_append_iff

lemma lexed_cons_iff {t : Token} {ts : List Token} :
    Lexed (t :: ts) ↔ t.EndsBefore (ts.flatMap Token.text) ∧ Lexed ts := by
  constructor
  · rintro (_ | ⟨hend, hrest⟩)
    exact ⟨hend, hrest⟩
  · rintro ⟨hend, hrest⟩
    exact .cons hend hrest

/-- Tokens of two texts end where the next ones begin in both texts together if the last token of the first
text does not go on with the second one. -/
lemma lexed_append_iff {ts us : List Token} :
    Lexed (ts ++ us) ↔ Lexed ts ∧ Lexed us ∧
      ∀ t ∈ ts.getLast?, ∀ x ∈ (us.flatMap Token.text).head?, ¬t.GoesOn x := by
  induction ts with
  | nil => simp [Lexed.nil]
  | cons t ts ih =>
    rw [List.cons_append, lexed_cons_iff, lexed_cons_iff, ih]
    cases ts with
    | nil =>
      rw [List.nil_append, List.flatMap_nil, Token.endsBefore_iff]
      constructor
      · rintro ⟨⟨halone, hends⟩, -, hus, -⟩
        exact ⟨⟨halone, .nil⟩, hus, by simpa using hends⟩
      · rintro ⟨⟨halone, hnil⟩, hus, hends⟩
        exact ⟨⟨halone, by simpa using hends⟩, hnil, hus, by simp⟩
    | cons v ts =>
      -- the first token sees the next one only
      have hsame : Lexed (v :: ts) → (t.EndsBefore ((v :: ts ++ us).flatMap Token.text) ↔
          t.EndsBefore ((v :: ts).flatMap Token.text)) := by
        rintro (_ | ⟨hend, -⟩)
        have hv : v.text.head?.isSome := by simpa using hend.text_ne_nil
        rw [Token.endsBefore_iff, @Token.endsBefore_iff ((v :: ts).flatMap Token.text),
          List.cons_append, List.flatMap_cons, List.flatMap_cons, List.head?_append, List.head?_append,
          Option.or_of_isSome hv, Option.or_of_isSome hv]
      rw [List.getLast?_cons_cons]
      constructor
      · rintro ⟨hend, hlexed, hrest⟩
        exact ⟨⟨(hsame hlexed).mp hend, hlexed⟩, hrest⟩
      · rintro ⟨⟨hend, hlexed⟩, hrest⟩
        exact ⟨(hsame hlexed).mpr hend, hlexed, hrest⟩

lemma Lexed.of_append {ts us : List Token} (h : Lexed (ts ++ us)) : Lexed us :=
  (lexed_append_iff.mp h).2.1

/-! ### A renewed text behind a token -/

/-- A text begins with the same character as another one, or with a look-up where the other one
begins with a name. -/
def Renewed (behind other : Text) : Prop :=
  other.head? = behind.head? ∨
    ∃ c, behind.head? = some c ∧ startsName c ∧ other.head? = some 'g'

/-- Nothing goes on with a look-up that does not go on with a name. -/
lemma Token.GoesOn.of_startsName {t : Token} {c : Char} (h : t.GoesOn 'g') (hc : startsName c) :
    t.GoesOn c := by
  obtain ⟨kind, text⟩ := t
  cases kind with
  | blank => exact absurd h (by simp [Token.GoesOn]; decide)
  | string => exact h
  | number => exact hc.isNumberChar
  | name => exact hc.isWordChar
  | sign =>
    have hlast : ∀ p ∈ Token.pairs, p.getLast? ≠ some 'g' := by decide
    exact absurd List.getLast?_concat (hlast _ h)

/-- Tokens end in front of a renewed text as they did before. -/
lemma Token.EndsBefore.renewed {t : Token} (h : t.EndsBefore behind) (hother : Renewed behind other) :
    t.EndsBefore other := by
  obtain ⟨halone, hends⟩ := Token.endsBefore_iff.mp h
  refine Token.endsBefore_iff.mpr ⟨halone, ?_⟩
  obtain hsame | ⟨c, hc, hstart, hg⟩ := hother
  · rwa [hsame]
  · rw [hg]
    rintro _ ⟨⟩ hgoes
    exact hends c hc (hgoes.of_startsName hstart)

/-! ### Look-ups -/

/-- The tokens of the look-up that replaces a free variable. -/
def lookupTokens (name : Text) : List Token :=
  if name = thisName then [⟨.name, contextName⟩, ⟨.sign, ['.']⟩, ⟨.name, "dot"⟩]
  else if name = rootName then [⟨.name, contextName⟩, ⟨.sign, ['.']⟩, ⟨.name, "root"⟩]
  else [⟨.name, contextName⟩, ⟨.sign, ['.']⟩, ⟨.name, "locals"⟩, ⟨.sign, ['[']⟩,
    ⟨.string, '"' :: (name ++ ['"'])⟩, ⟨.sign, [']']⟩]

lemma lookupTokens_join (name : Text) : (lookupTokens name).flatMap Token.text = lookup name := by
  unfold lookupTokens lookup
  split
  · rfl
  split
  · rfl
  · simp

/-- The characters of a name may stand in a string literal. -/
lemma literal_of_isWord {name : Text} (h : IsWord name) : Literal '"' (name ++ ['"']) := by
  have hword := h.isWordChar
  clear h
  induction name with
  | nil => exact .close
  | cons c rest ih =>
    have hc := hword c (by simp)
    refine .char ?_ ?_ (ih fun x hx => hword x (by simp [hx]))
    · rintro rfl
      exact absurd hc (by decide)
    · rintro rfl
      exact absurd hc (by decide)

/-- The words that look-ups are made of. -/
lemma isWord_of_mem {name : Text}
    (h : name ∈ [contextName, ("dot" : Text), ("root" : Text), ("locals" : Text)]) :
    IsWord name := by
  simp only [List.mem_cons, List.not_mem_nil, or_false] at h
  rcases h with rfl | rfl | rfl | rfl <;>
    exact ⟨⟨by decide, by decide, by decide, by decide⟩, List.all_eq_true.mp (by decide)⟩

/-- A look-up has tokens of its own in front of a text that no name goes on with. -/
lemma Lexed.lookup {name : Text} {ts : List Token} (hname : IsWord name) (hts : Lexed ts)
    (hbehind : (ts.flatMap Token.text).head?.any Text.isWordChar = false) :
    Lexed (lookupTokens name ++ ts) := by
  have hword : ∀ {w : Text} {us : List Token},
      w ∈ [contextName, ("dot" : Text), ("root" : Text), ("locals" : Text)] →
      (us.flatMap Token.text).head?.any Text.isWordChar = false → Lexed us →
      Lexed (⟨.name, w⟩ :: us) := fun hw hus hlexed =>
    .cons ((endsBefore_name_iff (isWord_of_mem hw)).mpr hus) hlexed
  have hsign : ∀ {c : Char} {us : List Token}, c ∈ ['.', '[', ']'] → Lexed us →
      Lexed (⟨.sign, [c]⟩ :: us) := by
    intro c us hc hlexed
    simp only [List.mem_cons, List.not_mem_nil, or_false] at hc
    rcases hc with rfl | rfl | rfl <;>
      exact .cons (endsBefore_sign (by decide) (by decide) (by decide) (by decide) (by decide) _)
        hlexed
  have hends : ∀ {c : Char} {us : List Token}, c ∈ ['.', '[', ']'] →
      (List.flatMap Token.text (⟨.sign, [c]⟩ :: us)).head?.any Text.isWordChar = false := by
    intro c us hc
    simp only [List.mem_cons, List.not_mem_nil, or_false] at hc
    rcases hc with rfl | rfl | rfl <;> exact rfl
  unfold lookupTokens
  split
  · exact hword (by simp) (hends (by simp)) (hsign (by simp) (hword (by simp) hbehind hts))
  split
  · exact hword (by simp) (hends (by simp)) (hsign (by simp) (hword (by simp) hbehind hts))
  · refine hword (by simp) (hends (by simp)) (hsign (by simp) (hword (by simp) (hends (by simp))
      (hsign (by simp) (.cons ?_ (hsign (by simp) hts)))))
    exact endsBefore_string (by decide) (literal_of_isWord hname) _

/-! ### Replaced tokens -/

/-- The tokens that stand for a marked token. -/
def expanded : Token × Bool → List Token
  | (t, true) => lookupTokens t.text
  | (t, false) => [t]

lemma replacedText_eq (marked : List (Token × Bool)) :
    replacedText marked = (marked.flatMap expanded).flatMap Token.text := by
  induction marked with
  | nil => rfl
  | cons m rest ih =>
    obtain ⟨t, free⟩ := m
    have hrest : replacedText ((t, free) :: rest) =
        (if free then lookup t.text else t.text) ++ replacedText rest := rfl
    rw [hrest, ih, List.flatMap_cons, List.flatMap_append]
    cases free <;> simp [expanded, lookupTokens_join]

/-- Only names are marked. -/
def NamesMarked (marked : List (Token × Bool)) : Prop :=
  ∀ t free, (t, free) ∈ marked → free = true → t.isName = true

lemma head?_lookup (name : Text) : (lookup name).head? = some 'g' := by
  unfold lookup
  split
  · rfl
  split <;> rfl

/-- Replacing names renews a text. -/
lemma renewed_replacedText {marked : List (Token × Bool)} (hlexed : Lexed (marked.map Prod.fst))
    (hmarked : NamesMarked marked) :
    Renewed ((marked.map Prod.fst).flatMap Token.text) (replacedText marked) := by
  cases marked with
  | nil => exact .inl rfl
  | cons m rest =>
    obtain ⟨t, free⟩ := m
    have hrest : replacedText ((t, free) :: rest) =
        (if free then lookup t.text else t.text) ++ replacedText rest := rfl
    cases hlexed with
    | cons hend _ =>
      rw [List.map_cons, List.flatMap_cons, hrest]
      cases free with
      | false =>
        left
        rw [List.head?_append, List.head?_append, if_neg (by simp)]
        rw [Option.or_of_isSome, Option.or_of_isSome] <;>
          simpa using hend.text_ne_nil
      | true =>
        have hword := isWord_of_endsBefore hend (hmarked t true (by simp) rfl)
        cases htext : t.text with
        | nil => exact absurd htext hend.text_ne_nil
        | cons c more =>
          rw [htext] at hword
          cases hword with
          | intro hstart _ =>
            refine .inr ⟨c, rfl, hstart, ?_⟩
            simp [List.head?_append, head?_lookup]

/-- The tokens of a text in which names are replaced. -/
theorem tokens_replacedText {marked : List (Token × Bool)} (hlexed : Lexed (marked.map Prod.fst))
    (hmarked : NamesMarked marked) : tokens (replacedText marked) = marked.flatMap expanded := by
  rw [replacedText_eq]
  refine Lexed.tokens_eq ?_
  induction marked with
  | nil => exact .nil
  | cons m rest ih =>
    obtain ⟨t, free⟩ := m
    have hmarked' : NamesMarked rest := fun t free hmem => hmarked t free (by simp [hmem])
    cases hlexed with
    | cons hend hlexed =>
      have hrest := ih hlexed hmarked'
      have hrenewed := renewed_replacedText hlexed hmarked'
      rw [replacedText_eq] at hrenewed
      cases free with
      | false => exact .cons (hend.renewed hrenewed) hrest
      | true =>
        have hname := hmarked t true (by simp) rfl
        have hword := isWord_of_endsBefore hend hname
        refine .lookup hword hrest ?_
        -- no name goes on where the replaced one has ended
        have hkind : t.kind = .name := by simpa [Token.isName] using hname
        have hend' := hend.renewed hrenewed
        obtain ⟨kind, text⟩ := t
        obtain rfl : kind = .name := hkind
        exact (endsBefore_name_iff hword).mp hend'

end ComponentTags
