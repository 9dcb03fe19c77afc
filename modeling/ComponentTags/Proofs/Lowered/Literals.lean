/-
# Texts as string literals

A text is written as a string literal with a backslash in front of each of its quotes and backslashes
(`stringLiteral_eq_replaceAll`).  Whatever the text is and whatever follows, the literal ends with its last
character, it is a single token, and its characters without the escapes are the text again
(`stringLiteral_reads_back`).
-/
import ComponentTags.Source
import ComponentTags.Lowered.Write
import ComponentTags.Proofs.Scope.Lexed

namespace ComponentTags

open ComponentTags.Span (Literal)

/-- The characters of a literal between its quotes. -/
def escaped (text : Text) : Text :=
  text.flatMap fun c => if c == '\\' || c == '"' then ['\\', c] else [c]

/-- The text that the characters between the quotes of a literal stand for: a backslash with a character
behind it stands for that character. -/
def withoutEscapes : Text → Text
  | [] => []
  | '\\' :: c :: rest => c :: withoutEscapes rest
  | c :: rest => c :: withoutEscapes rest

variable {c : Char} {text : Text}

lemma stringLiteral_eq (text : Text) : stringLiteral text = '"' :: (escaped text ++ ['"']) := rfl

/-! ### Escapes -/

lemma escaped_cons_of_escaped (hc : c = '\\' ∨ c = '"') (text : Text) :
    escaped (c :: text) = '\\' :: c :: escaped text := by
  simp [escaped, hc]

lemma escaped_cons_of_plain (hbackslash : c ≠ '\\') (hquote : c ≠ '"') (text : Text) :
    escaped (c :: text) = c :: escaped text := by
  simp [escaped, hbackslash, hquote]

lemma withoutEscapes_cons (hc : c ≠ '\\') (text : Text) :
    withoutEscapes (c :: text) = c :: withoutEscapes text := by
  rw [withoutEscapes]
  rintro _ _ rfl
  exact absurd rfl hc

/-- Each character of a text is written with its escape, and the escape is undone. -/
lemma withoutEscapes_escaped (text : Text) : withoutEscapes (escaped text) = text := by
  induction text with
  | nil => rfl
  | cons c text ih =>
    by_cases hc : c = '\\' ∨ c = '"'
    · rw [escaped_cons_of_escaped hc, withoutEscapes, ih]
    · obtain ⟨hbackslash, hquote⟩ := not_or.mp hc
      rw [escaped_cons_of_plain hbackslash hquote, withoutEscapes_cons hbackslash, ih]

/-- No character of the text closes the literal, and the last backslash does not reach its quote. -/
lemma literal_escaped (text : Text) : Literal '"' (escaped text ++ ['"']) := by
  induction text with
  | nil => exact .close
  | cons c text ih =>
    by_cases hc : c = '\\' ∨ c = '"'
    · rw [escaped_cons_of_escaped hc]
      exact ih.escaped
    · obtain ⟨hbackslash, hquote⟩ := not_or.mp hc
      rw [escaped_cons_of_plain hbackslash hquote]
      exact ih.char hbackslash hquote

/-! ### One replacement after the other -/

/-- Every occurrence of a character is replaced. -/
lemma replaceAll_singleton (c : Char) (new text : Text) :
    Text.replaceAll [c] new text = text.flatMap fun x => if x = c then new else [x] := by
  -- each step passes one character, so there are enough of them
  have hgo : ∀ fuel (rest : Text), rest.length ≤ fuel →
      Text.replaceAll.go [c] new fuel rest = rest.flatMap fun x => if x = c then new else [x] := by
    intro fuel
    induction fuel with
    | zero =>
      intro rest hrest
      obtain rfl : rest = [] := List.eq_nil_of_length_eq_zero (by omega)
      rfl
    | succ fuel ih =>
      intro rest hrest
      cases rest with
      | nil => rfl
      | cons x rest =>
        have hnext := ih rest (by simpa using hrest)
        by_cases hx : x = c
        · simp [Text.replaceAll.go, hx, hnext]
        · simp [Text.replaceAll.go, hx, Ne.symm hx, hnext]
  exact hgo _ _ (Nat.le_refl _)

/-- The literal of a text is the text in quotes with every backslash doubled first and a backslash put in
front of every quote then. -/
theorem stringLiteral_eq_replaceAll (text : Text) :
    stringLiteral text =
      '"' :: (Text.replaceAll "\"" "\\\"" (Text.replaceAll "\\" "\\\\" text) ++ ['"']) := by
  have hescaped : escaped text =
      Text.replaceAll ['"'] ['\\', '"'] (Text.replaceAll ['\\'] ['\\', '\\'] text) := by
    rw [replaceAll_singleton, replaceAll_singleton, List.flatMap_assoc, escaped]
    refine congrArg (List.flatMap · text) (funext fun c => ?_)
    by_cases hbackslash : c = '\\'
    · subst hbackslash
      rfl
    · by_cases hquote : c = '"' <;> simp [hbackslash, hquote]
  rw [stringLiteral_eq, hescaped]
  rfl

/-! ### Reading a literal -/

/-- A literal is one token in front of any text. -/
lemma tokens_stringLiteral_append (text behind : Text) :
    tokens (stringLiteral text ++ behind) = ⟨.string, stringLiteral text⟩ :: tokens behind := by
  have hend := endsBefore_string (by decide) (literal_escaped text) behind
  exact tokens_append hend

/-- A literal is passed up to its last character, wherever it stands and whatever follows. -/
lemma skipString?_stringLiteral (text front behind : Text) (d : Delimiters) (name : Option Text) :
    Source.skipString? ⟨front ++ (stringLiteral text ++ behind), d, name⟩ front.length =
      some (front.length + (stringLiteral text).length) := by
  have hlength : Span.stringLength? (stringLiteral text ++ behind) =
      some (stringLiteral text).length := by
    rw [stringLiteral_eq, List.cons_append, Span.stringLength?,
      (literal_escaped text).length_eq (by decide), List.length_cons, Nat.add_comm]
  rw [Source.skipString?, Source.rest, List.drop_left, hlength]
  rfl

/-- A string literal cannot be left early and loses nothing: it is passed up to its last character, it is
one token, its characters between the quotes stand for the text that was written, and so no two texts have
the same literal. -/
theorem stringLiteral_reads_back (text front behind : Text) (d : Delimiters) (name : Option Text) :
    Source.skipString? ⟨front ++ (stringLiteral text ++ behind), d, name⟩ front.length =
        some (front.length + (stringLiteral text).length) ∧
      tokens (stringLiteral text) = [⟨.string, stringLiteral text⟩] ∧
      (∃ inside, stringLiteral text = '"' :: (inside ++ ['"']) ∧ withoutEscapes inside = text) ∧
      Function.Injective stringLiteral := by
  refine ⟨skipString?_stringLiteral text front behind d name, ?_, ?_, ?_⟩
  · have htokens := tokens_stringLiteral_append text []
    rwa [List.append_nil, tokens] at htokens
  · exact ⟨escaped text, stringLiteral_eq text, withoutEscapes_escaped text⟩
  · intro text other heq
    have hescaped : escaped text = escaped other := by
      rw [stringLiteral_eq, stringLiteral_eq] at heq
      exact List.append_cancel_right (List.tail_eq_of_cons_eq heq)
    rw [← withoutEscapes_escaped text, hescaped, withoutEscapes_escaped]

end ComponentTags
