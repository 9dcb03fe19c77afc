/-
# Strings of the template language

The template language reads a string in two steps: it looks for the closing quote, and it reads the escapes
of what is in front of it, where every character beyond ASCII is first written by its code.  A character
written by its code is read back (`unescaped_codeEscape`), and so is a text written as a string literal
(`beginning_stringLiteral`).
-/
import ComponentTags.Template.Lexeme
import ComponentTags.Proofs.Lowered.Literals
import Mathlib.Data.List.TakeWhile

namespace ComponentTags.Template

open Delimiters (standard)

variable {c : Char} {n width : Nat} {text rest : Text}

/-! ### Hexadecimal digits -/

lemma hexValue?_digitChar (h : n < 16) : hexValue? n.digitChar = some n := by
  have hall : ∀ m < 16, hexValue? (Nat.digitChar m) = some m := by decide
  exact hall n h

lemma numberIn_append_digit (digits : Text) (h : n < 16) :
    numberIn 16 (digits ++ [n.digitChar]) = 16 * numberIn 16 digits + n := by
  simp [numberIn, hexValue?_digitChar h]

/-- A number written in hexadecimal digits is read back. -/
lemma numberIn_toDigits (n : Nat) :
    numberIn 16 (Nat.toDigits 16 n) = n ∧ ∀ c ∈ Nat.toDigits 16 n, (hexValue? c).isSome := by
  induction n using Nat.strongRecOn with
  | ind n ih =>
    rw [Nat.toDigits_eq_if (by decide)]
    split
    · rename_i hsmall
      constructor
      · simpa [numberIn] using numberIn_append_digit [] hsmall
      · simp [hexValue?_digitChar hsmall]
    · rename_i hlarge
      have hdigit : n % 16 < 16 := Nat.mod_lt n (by decide)
      obtain ⟨hnumber, hdigits⟩ := ih (n / 16) (by omega)
      constructor
      · rw [numberIn_append_digit _ hdigit, hnumber]
        omega
      · intro c hc
        rcases List.mem_append.mp hc with hc | hc
        · exact hdigits c hc
        · rw [List.mem_singleton.mp hc, hexValue?_digitChar hdigit]
          rfl

lemma numberIn_replicate_append (count : Nat) (digits : Text) :
    numberIn 16 (List.replicate count '0' ++ digits) = numberIn 16 digits := by
  induction count with
  | zero => rfl
  | succ count ih => exact ih

lemma numberIn_hex (width n : Nat) :
    numberIn 16 (Text.hex width n) = n ∧ ∀ c ∈ Text.hex width n, (hexValue? c).isSome := by
  obtain ⟨hnumber, hdigits⟩ := numberIn_toDigits n
  refine ⟨(numberIn_replicate_append _ _).trans hnumber, ?_⟩
  intro c hc
  rcases List.mem_append.mp hc with hc | hc
  · rw [(List.mem_replicate.mp hc).2]
    rfl
  · exact hdigits c hc

lemma length_hex (h : (Nat.toDigits 16 n).length ≤ width) : (Text.hex width n).length = width := by
  simp only [Text.hex, List.length_append, List.length_replicate]
  omega

lemma toNat_le (c : Char) : c.toNat ≤ 0x10ffff := by
  have hvalid : c.toNat < 0xd800 ∨ 0xdfff < c.toNat ∧ c.toNat < 0x110000 := c.valid
  omega

/-- The code of a character in hexadecimal digits stands for the character. -/
lemma codeText_hex (h : (Nat.toDigits 16 c.toNat).length ≤ width) (kind : Text) :
    codeText (Text.hex width c.toNat) width kind = .ok [c] := by
  obtain ⟨hnumber, hdigits⟩ := numberIn_hex width c.toNat
  have hfound : (Text.hex width c.toNat).takeWhile (fun c => (hexValue? c).isSome) =
      Text.hex width c.toNat := List.takeWhile_eq_self_iff.mpr hdigits
  have hcode := toNat_le c
  simp only [codeText, hfound, length_hex h, hnumber, Nat.lt_irrefl, if_false,
    Nat.not_lt.mpr hcode, Char.ofNat_toNat]

/-! ### Escapes -/

lemma unescaped_coded (h : (Nat.toDigits 16 c.toNat).length ≤ width) (kind rest : Text) :
    unescaped.coded (Text.hex width c.toNat ++ rest) width kind = (unescaped rest).map (c :: ·) := by
  have hlength := length_hex h
  rw [unescaped.coded, List.take_left' hlength, List.drop_left' hlength, codeText_hex h]
  rfl

/-- A character that is written by its code is read back. -/
lemma unescaped_codeEscape (c : Char) (rest : Text) :
    unescaped (Text.codeEscape c ++ rest) = (unescaped rest).map (c :: ·) := by
  have hcode := toNat_le c
  have hlength : ∀ width, 0 < width → c.toNat < 16 ^ width →
      (Nat.toDigits 16 c.toNat).length ≤ width := fun width hwidth hlt =>
    (Nat.length_toDigits_le_iff (by decide) hwidth).mpr hlt
  unfold Text.codeEscape
  dsimp only
  split
  · rw [List.cons_append, List.cons_append, unescaped]
    exact unescaped_coded (hlength _ (by decide) (by omega)) _ rest
  split
  · rw [List.cons_append, List.cons_append, unescaped]
    exact unescaped_coded (hlength _ (by decide) (by omega)) _ rest
  · rw [List.cons_append, List.cons_append, unescaped]
    exact unescaped_coded (hlength _ (by decide) (by omega)) _ rest

lemma unescaped_cons (hc : c ≠ '\\') (rest : Text) :
    unescaped (c :: rest) = (unescaped rest).map (c :: ·) := by
  rw [unescaped]
  rintro _ _ rfl
  exact absurd rfl hc

lemma unescaped_escape (hc : c = '\\' ∨ c = '"') (rest : Text) :
    unescaped ('\\' :: c :: rest) = (unescaped rest).map (c :: ·) := by
  rcases hc with rfl | rfl
  · rw [unescaped]
    rfl
  · rw [unescaped]
    rfl

lemma spelledOut_cons (c : Char) (rest : Text) :
    spelledOut (c :: rest) = (if c.toNat < 128 then [c] else Text.codeEscape c) ++ spelledOut rest :=
  rfl

/-- The characters of a literal between its quotes are read as the text that was written. -/
lemma unescaped_escaped (text : Text) : unescaped (spelledOut (escaped text)) = .ok text := by
  induction text with
  | nil => rw [escaped, List.flatMap_nil, spelledOut, List.flatMap_nil, unescaped]
  | cons c text ih =>
    by_cases hc : c = '\\' ∨ c = '"'
    · have hascii : c.toNat < 128 := by rcases hc with rfl | rfl <;> decide
      rw [escaped_cons_of_escaped hc, spelledOut_cons, spelledOut_cons, if_pos (by decide),
        if_pos hascii, List.singleton_append, List.singleton_append, unescaped_escape hc, ih]
      rfl
    · obtain ⟨hbackslash, hquote⟩ := not_or.mp hc
      rw [escaped_cons_of_plain hbackslash hquote, spelledOut_cons]
      split
      · rw [List.singleton_append, unescaped_cons hbackslash, ih]
        rfl
      · rw [unescaped_codeEscape, ih]
        rfl

/-! ### The closing quote -/

/-- The template language finds the closing quote of a literal where it is found in a span. -/
lemma stringBody?_of_literal {quote : Char} (hquote : quote ≠ '\\') (h : Span.Literal quote text)
    (behind : Text) :
    stringBody? quote (text ++ behind) = some (text.dropLast, 1 + text.length) := by
  have hgo : ∀ (count : Nat) (held : Text), stringBody?.go quote count held (text ++ behind) =
      some (held.reverse ++ text.dropLast, count + text.length) := by
    induction h with
    | close =>
      intro count held
      rw [List.singleton_append, stringBody?.go, if_pos rfl, List.dropLast_singleton, List.append_nil,
        List.length_singleton]
      rintro _ _ rfl
      exact absurd rfl hquote
    | @escaped c rest h ih =>
      intro count held
      have hne : rest ≠ [] := by cases h <;> simp
      rw [List.cons_append, List.cons_append, stringBody?.go, ih, List.dropLast_cons_of_ne_nil (by simp),
        List.dropLast_cons_of_ne_nil hne]
      simp [Nat.add_assoc, Nat.add_comm 2]
    | @char c rest hc hno h ih =>
      intro count held
      have hne : rest ≠ [] := by cases h <;> simp
      rw [List.cons_append, stringBody?.go, if_neg hno, if_neg hc, ih, List.dropLast_cons_of_ne_nil hne]
      · simp [Nat.add_assoc, Nat.add_comm 1]
      · rintro _ _ rfl
        exact absurd rfl hc
  exact hgo 1 []

/-! ### A string literal -/

lemma digitsLength_of_not {isDigit : Char → Bool} (hc : isDigit c = false) (rest : Text) :
    digitsLength isDigit (c :: rest) = 0 := by
  unfold digitsLength
  split <;> simp_all

lemma closeLength?_quote (isValue : Bool) (rest : Text) :
    closeLength? standard isValue ('"' :: rest) = none := by
  cases isValue <;> simp [closeLength?, standard]

/-- The template language reads the literal of a text as a string with this text, and passes it up to its
last character, whatever follows. -/
theorem beginning_stringLiteral (text behind : Text) (isValue isOpen : Bool) (before : Option Char) :
    beginning standard isValue isOpen before '"' (escaped text ++ ('"' :: behind)) =
      .lexeme (.string text) (stringLiteral text).length := by
  have hbody : stringBody? '"' (escaped text ++ ('"' :: behind)) =
      some (escaped text, (stringLiteral text).length) := by
    have hliteral := stringBody?_of_literal (by decide) (literal_escaped text) behind
    rw [List.append_assoc, List.dropLast_concat] at hliteral
    rw [stringLiteral_eq, List.length_cons, Nat.add_comm]
    exact hliteral
  -- a quote begins nothing but a string
  have hreal : realLength? ('"' :: (escaped text ++ ('"' :: behind))) = none := by
    simp [realLength?, digitsLength_of_not]
  have hint : int? ('"' :: (escaped text ++ ('"' :: behind))) = none := by
    simp [int?]
  have hblank : Text.isBlank '"' = false := by decide
  have hname : isNameChar '"' = false := by decide
  simp only [beginning, closeLength?_quote, hreal, hint, hblank, hname, hbody, ite_self, beq_self_eq_true,
    Bool.or_true, Bool.false_eq_true, if_true, if_false, stringLexeme, unescaped_escaped]

end ComponentTags.Template
