/-
# Lexemes of written templates

What the lexemes of a text are depends on the text alone: neither its place nor the number of steps matters,
as long as there is a step for every character.  `Outside` and `Inside` say so for a text outside of spans,
behind some text that is held back, and for one inside of a span, behind some open brackets.  Their rules go
from the front of a text to its end: text is held back up to the next span (`Outside.text`), a span begins and
ends with its delimiters (`Outside.value`, `Outside.statement`, `Inside.close`), and a name, a string or a sign
in front of what it does not go on with is a lexeme (`Inside.name`, `Inside.string`, `Inside.sign`).
-/
import ComponentTags.Proofs.Scope.Single
import ComponentTags.Proofs.Template.Strings
import ComponentTags.Proofs.Text.Identifiers
import Mathlib.Data.Bool.AllAny

namespace ComponentTags.Template

open Delimiters (standard)

variable {isValue isOpen : Bool} {before : Option Char} {c : Char} {due : List Text}
  {held front word rest : Text} {ls : List Lexeme}

/-! ### Lexemes apart from their lines -/

/-- From a standing on, a text has certain lexemes, whatever its place and however many steps there are beyond
one for every character. -/
def Lexes (st : Standing) (text : Text) (ls : List Lexeme) : Prop :=
  ∀ ⦃fuel : Nat⦄ (place line last : Nat), text.length < fuel →
    (readLexemes standard fuel st place line last text).map Placed.lexeme = ls

/-- The lexemes of a text outside of spans, in front of which some text is held back. -/
def Outside (held text : Text) (ls : List Lexeme) : Prop :=
  ∀ since, Lexes (.outside held.reverse since) text ls

/-- The lexemes of a text inside of a span, with the closing brackets that are due. -/
def Inside (isValue : Bool) (due : List Text) (text : Text) (ls : List Lexeme) : Prop :=
  ∀ before, Lexes (.inside isValue due before) text ls

/-- Text that is put out, as lexemes: there is none for the empty text. -/
def dataLexemes (held : Text) : List Lexeme := if held = [] then [] else [.data held]

lemma heldData_reverse (line : Nat) (held : Text) :
    (heldData line held.reverse false).map Placed.lexeme = dataLexemes held := by
  unfold heldData dataLexemes
  cases held <;> simp

lemma lexemes_of_outside {text : Text} (hreturn : '\r' ∉ text) (hfeed : text.getLast? ≠ some '\n')
    (h : Outside [] text ls) : (lexemes standard text).map Placed.lexeme = ls := by
  have hunified : Text.unified text = text := by
    clear hfeed h
    fun_induction Text.unified text with
    | case1 => rfl
    | case2 rest ih => simp at hreturn
    | case3 rest _ ih => simp at hreturn
    | case4 c rest _ _ ih => rw [ih fun hmem => hreturn (.tail _ hmem)]
  have hnormalised : normalised text = text := by
    simp only [normalised, hunified]
  unfold lexemes
  rw [hnormalised]
  exact h 1 0 1 1 (by omega)

/-! ### Outside of spans -/

/-- Nothing opens at a character other than a brace. -/
lemma opening?_eq_none (hc : c ≠ '\x7b') (rest : Text) : opening? standard (c :: rest) = none := by
  simp [opening?, rawOpening?, byLength, insertByLength, standard, hc.symm]

lemma opening?_value (rest : Text) :
    opening? standard ('\x7b' :: '\x7b' :: rest) = some (.span .expression, 2) := by
  simp [opening?, rawOpening?, byLength, insertByLength, standard]

lemma opening?_statement (h : rawOpening? standard ('\x7b' :: '%' :: rest) = none) :
    opening? standard ('\x7b' :: '%' :: rest) = some (.span .statement, 2) := by
  rw [opening?, h]
  simp [byLength, insertByLength, standard]

namespace Outside

lemma finish : Outside held [] (dataLexemes held ++ [.finish]) := by
  rintro since (_ | fuel) place line last hfuel
  · cases hfuel
  · rw [readLexemes, List.map_append, heldData_reverse]
    rfl

lemma char (hc : c ≠ '\x7b') (h : Outside (held ++ [c]) rest ls) : Outside held (c :: rest) ls := by
  rintro since (_ | fuel) place line last hfuel
  · cases hfuel
  · rw [readLexemes, opening?_eq_none hc]
    rw [Outside, List.reverse_concat] at h
    exact h _ _ _ _ (Nat.lt_of_succ_lt_succ hfuel)

/-- Text without an opening brace is held back. -/
lemma text (hfront : '\x7b' ∉ front) (h : Outside (held ++ front) rest ls) :
    Outside held (front ++ rest) ls := by
  induction front generalizing held with
  | nil => rwa [List.append_nil] at h
  | cons c front ih =>
    rw [List.mem_cons, not_or] at hfront
    refine char (Ne.symm hfront.1) (ih hfront.2 ?_)
    rwa [List.append_assoc]

/-- A span begins. -/
lemma span {kind : SpanKind} (hkind : kind ≠ .comment)
    (hopens : opening? standard ('\x7b' :: c :: ' ' :: rest) = some (.span kind, 2))
    (h : Inside (kind == .expression) [] (' ' :: rest) ls) :
    Outside held ('\x7b' :: c :: ' ' :: rest)
      (dataLexemes held ++ (if kind == .expression then .valueBegin else .blockBegin) :: ls) := by
  rintro since (_ | fuel) place line last hfuel
  · cases hfuel
  · have hsign : controlSign (' ' :: rest) = [] := rfl
    have hfuel' : (' ' :: rest).length < fuel := by
      simp only [List.length_cons] at hfuel ⊢
      omega
    rw [readLexemes, hopens]
    simp only [List.drop_succ_cons, List.drop_zero, hsign]
    rw [List.map_append, List.map_cons, List.length_nil, Nat.add_zero, List.drop_succ_cons, List.drop_succ_cons,
      List.drop_zero, h _ _ _ _ hfuel', decide_eq_false (by decide), heldData_reverse]

lemma value (h : Inside true [] (' ' :: rest) ls) :
    Outside held ('\x7b' :: '\x7b' :: ' ' :: rest) (dataLexemes held ++ .valueBegin :: ls) :=
  span (by decide) (opening?_value _) h

lemma statement (hraw : rawOpening? standard ('\x7b' :: '%' :: ' ' :: rest) = none)
    (h : Inside false [] (' ' :: rest) ls) :
    Outside held ('\x7b' :: '%' :: ' ' :: rest) (dataLexemes held ++ .blockBegin :: ls) :=
  span (by decide) (opening?_statement hraw) h

end Outside

/-! ### Names -/

/-- No blank occurs in a name. -/
lemma isNameChar_of_isBlank (h : Text.isBlank c = true) : isNameChar c = false := by
  have hblanks : ∀ n ∈ blankCodes, Text.isIdentifierChar (Char.ofNat n) = false := by
    decide +kernel
  rw [isNameChar, isWordChar_of_isBlank h, Bool.false_or]
  exact eq_false_of_isBlank hblanks h

lemma isNameChar_of_isIdentifier (h : Text.isIdentifier word = true) :
    ∀ c ∈ word, isNameChar c = true := by
  intro c hc
  rw [isNameChar, Text.isIdentifierChar_of_isIdentifier h c hc, Bool.or_true]

/-- The beginning of a name does not begin a number. -/
lemma isDigit_of_isIdentifierStart (h : Text.isIdentifierStart c = true) : c.isDigit = false := by
  have hdigits : ∀ n < 10, Text.isIdentifierStart (Char.ofNat (48 + n)) = false := by decide
  rw [Bool.eq_false_iff]
  intro hdigit
  rw [Char.isDigit, Bool.and_eq_true, decide_eq_true_eq, decide_eq_true_eq] at hdigit
  have hleft : 48 ≤ c.toNat := hdigit.1
  have hright : c.toNat ≤ 57 := hdigit.2
  have hc := hdigits (c.toNat - 48) (by omega)
  rw [Nat.add_sub_cancel' hleft, Char.ofNat_toNat, h] at hc
  cases hc

/-! ### Inside of spans -/

lemma realLength?_of_not_isDigit (hc : c.isDigit = false) (rest : Text) :
    realLength? (c :: rest) = none := by
  simp only [realLength?, digitsLength_of_not hc, if_true]

lemma int?_of_not_isDigit (hc : c.isDigit = false) (rest : Text) : int? (c :: rest) = none := by
  have hzero : c ≠ '0' := by rintro rfl; cases hc
  unfold int?
  split <;> simp_all

lemma closeLength?_eq_none (hc : c ∉ ['+', '-', '%', '\x7d']) (rest : Text) :
    closeLength? standard isValue (c :: rest) = none := by
  simp only [List.mem_cons, List.not_mem_nil, or_false, not_or] at hc
  obtain ⟨hplus, hminus, hpercent, hbrace⟩ := hc
  cases isValue <;> simp [closeLength?, standard, Ne.symm hplus, Ne.symm hminus, Ne.symm hpercent, Ne.symm hbrace]

lemma takeWhile_eq_nil {p : Char → Bool} (h : rest.head?.any p = false) : rest.takeWhile p = [] := by
  cases rest with
  | nil => rfl
  | cons c rest => simpa using h

lemma beginning_blank (hrest : rest.head?.any Text.isBlank = false) :
    beginning standard isValue isOpen before ' ' rest = .blanks 1 := by
  have hclose : closeLength? standard isValue (' ' :: rest) = none := closeLength?_eq_none (by decide) rest
  have hblank : Text.isBlank ' ' = true := by decide
  simp only [beginning, hclose, hblank, ite_self, List.takeWhile_cons, takeWhile_eq_nil hrest, if_true,
    List.length_singleton]

lemma beginning_name (hname : Text.isIdentifier (c :: word) = true)
    (hrest : rest.head?.any isNameChar = false) :
    beginning standard isValue isOpen before c (word ++ rest) = .lexeme (.name (c :: word)) (c :: word).length := by
  have hchars := isNameChar_of_isIdentifier hname
  have hc : isNameChar c = true := hchars c (.head _)
  have hdigit : c.isDigit = false := by
    rw [Text.isIdentifier, Bool.and_eq_true] at hname
    exact isDigit_of_isIdentifierStart hname.1
  have hclose : closeLength? standard isValue (c :: (word ++ rest)) = none := by
    refine closeLength?_eq_none (fun hmem => ?_) _
    have hnot : ∀ x ∈ ['+', '-', '%', '\x7d'], isNameChar x = false := List.all_iff_forall_prop.mp (by decide)
    rw [hnot c hmem] at hc
    cases hc
  have hblank : Text.isBlank c = false := by
    rw [Bool.eq_false_iff]
    intro hblank
    rw [isNameChar_of_isBlank hblank] at hc
    cases hc
  have htake : (c :: (word ++ rest)).takeWhile isNameChar = c :: word := by
    rw [← List.cons_append, List.takeWhile_append_of_pos hchars, takeWhile_eq_nil hrest, List.append_nil]
  simp only [beginning, hclose, hblank, hc, realLength?_of_not_isDigit hdigit, int?_of_not_isDigit hdigit, htake,
    nameLexeme, hname, ite_self, if_true, Bool.false_eq_true, if_false]

/-- The signs that stand for themselves in front of any text. -/
def plainSigns : List Char := ['.', ',', ':', '(', '[', '\x7b']

lemma beginning_sign (hc : c ∈ plainSigns) (rest : Text) :
    beginning standard isValue isOpen before c rest = .lexeme (.sign [c]) 1 := by
  have hclose : closeLength? standard isValue (c :: rest) = none :=
    closeLength?_eq_none (fun hmem => by simp only [plainSigns] at hc; aesop) rest
  have hall : ∀ x ∈ plainSigns, Text.isBlank x = false ∧ x.isDigit = false ∧ isNameChar x = false ∧
      (x == '\'' || x == '"') = false := List.all_iff_forall_prop.mp (by decide)
  obtain ⟨hblank, hdigit, hname, hquote⟩ := hall c hc
  have hsign : signs.find? (·.isPrefixOf (c :: rest)) = some [c] := by
    simp only [plainSigns, List.mem_cons, List.not_mem_nil, or_false] at hc
    rcases hc with rfl | rfl | rfl | rfl | rfl | rfl <;> rfl
  simp only [beginning, hclose, hblank, hname, hquote, hsign, realLength?_of_not_isDigit hdigit,
    int?_of_not_isDigit hdigit, ite_self, Bool.false_eq_true, if_false, List.length_singleton]

/-- A closing bracket stands for itself where a bracket is open. -/
lemma beginning_closing (hc : c ∈ [')', ']', '\x7d']) (rest : Text) :
    beginning standard isValue true before c rest = .lexeme (.sign [c]) 1 := by
  have hall : ∀ x ∈ [')', ']', '\x7d'], Text.isBlank x = false ∧ x.isDigit = false ∧ isNameChar x = false ∧
      (x == '\'' || x == '"') = false := List.all_iff_forall_prop.mp (by decide)
  obtain ⟨hblank, hdigit, hname, hquote⟩ := hall c hc
  have hsign : signs.find? (·.isPrefixOf (c :: rest)) = some [c] := by
    simp only [List.mem_cons, List.not_mem_nil, or_false] at hc
    rcases hc with rfl | rfl | rfl <;> rfl
  simp only [beginning, hblank, hname, hquote, hsign, realLength?_of_not_isDigit hdigit,
    int?_of_not_isDigit hdigit, ite_self, if_true, Bool.false_eq_true, if_false, List.length_singleton]

/-- The brackets that are due before and behind a lexeme. -/
inductive Passes : List Text → Lexeme → List Text → Prop
  | name (due : List Text) (n : Text) : Passes due (.name n) due
  | string (due : List Text) (t : Text) : Passes due (.string t) due
  | sign (due : List Text) {s : Text} (hs : s ∈ ([".", ",", ":"] : List Text)) : Passes due (.sign s) due
  | opening (due : List Text) {s close : Text} (hs : closing? s = some close) :
      Passes due (.sign s) (close :: due)
  | closing (due : List Text) {s : Text} (hs : s ∈ ([")", "]", "\x7d"] : List Text)) :
      Passes (s :: due) (.sign s) due

namespace Inside

/-- A lexeme is read in front of what it does not go on with. -/
lemma lexeme (front : Text) {due' : List Text} {l : Lexeme} (hpasses : Passes due l due')
    (hbeginning : ∀ before, beginning standard isValue (!due.isEmpty) before c (front ++ rest) =
      .lexeme l (c :: front).length)
    (h : Inside isValue due' rest ls) : Inside isValue due (c :: (front ++ rest)) (l :: ls) := by
  rintro before (_ | fuel) place line last hfuel
  · cases hfuel
  · have hdrop : (c :: (front ++ rest)).drop (c :: front).length = rest := List.drop_left
    have hfuel' : rest.length < fuel := by
      simp only [List.length_cons, List.length_append] at hfuel
      omega
    rw [readLexemes]
    simp only [hbeginning]
    cases hpasses with
    | name due n =>
      simp only [hdrop, List.map_cons]
      rw [h _ _ _ _ hfuel']
    | string due t =>
      simp only [hdrop, List.map_cons]
      rw [h _ _ _ _ hfuel']
    | @sign due s hs =>
      have hall : ∀ s ∈ ([".", ",", ":"] : List Text), closing? s = none ∧
          (decide (s = ")") || decide (s = "]") || decide (s = "\x7d")) = false := by decide
      obtain ⟨hopens, hcloses⟩ := hall s hs
      simp only [hdrop, hopens, hcloses, Bool.false_eq_true, if_false, List.map_cons]
      rw [h _ _ _ _ hfuel']
    | @opening due s close hs =>
      simp only [hdrop, hs, List.map_cons]
      rw [h _ _ _ _ hfuel']
    | @closing due s hs =>
      have hall : ∀ s ∈ ([")", "]", "\x7d"] : List Text), closing? s = none ∧
          (decide (s = ")") || decide (s = "]") || decide (s = "\x7d")) = true := by decide
      obtain ⟨hopens, hcloses⟩ := hall s hs
      simp only [hdrop, hopens, hcloses, if_true, List.map_cons]
      rw [h _ _ _ _ hfuel']

lemma blank (hrest : rest.head?.any Text.isBlank = false) (h : Inside isValue due rest ls) :
    Inside isValue due (' ' :: rest) ls := by
  rintro before (_ | fuel) place line last hfuel
  · cases hfuel
  · rw [readLexemes]
    simp only [beginning_blank hrest]
    exact h _ _ _ _ (Nat.lt_of_succ_lt_succ hfuel)

lemma name (hname : Text.isIdentifier word = true) (hrest : rest.head?.any isNameChar = false)
    (h : Inside isValue due rest ls) : Inside isValue due (word ++ rest) (.name word :: ls) := by
  cases word with
  | nil => cases hname
  | cons c word => exact lexeme word (.name due _) (fun _ => beginning_name hname hrest) h

lemma string (t : Text) (h : Inside isValue due rest ls) :
    Inside isValue due (stringLiteral t ++ rest) (.string t :: ls) := by
  have hfront : stringLiteral t = '"' :: (escaped t ++ ['"']) := stringLiteral_eq t
  rw [hfront, List.cons_append]
  refine lexeme _ (.string due t) (fun before => ?_) h
  rw [List.append_assoc, ← hfront]
  exact beginning_stringLiteral t rest _ _ _

/-- A sign between the parts of an expression. -/
lemma sign (hc : c ∈ ['.', ',', ':']) (h : Inside isValue due rest ls) :
    Inside isValue due (c :: rest) (.sign [c] :: ls) := by
  have hall : ∀ x ∈ ['.', ',', ':'], x ∈ plainSigns ∧ [x] ∈ ([".", ",", ":"] : List Text) :=
    List.all_iff_forall_prop.mp (by decide)
  obtain ⟨hplain, hmem⟩ := hall c hc
  exact lexeme [] (.sign due hmem) (fun _ => beginning_sign hplain rest) h

/-- An opening bracket. -/
lemma opening {close : Text} (hclose : closing? [c] = some close) (h : Inside isValue (close :: due) rest ls) :
    Inside isValue due (c :: rest) (.sign [c] :: ls) := by
  have hplain : c ∈ plainSigns := by
    unfold closing? at hclose
    split at hclose
    · next hc => cases hc; decide
    split at hclose
    · next hc => cases hc; decide
    split at hclose
    · next hc => cases hc; decide
    · cases hclose
  exact lexeme [] (.opening due hclose) (fun _ => beginning_sign hplain rest) h

/-- The closing bracket that is due. -/
lemma closing (hc : c ∈ [')', ']', '\x7d']) (h : Inside isValue due rest ls) :
    Inside isValue ([c] :: due) (c :: rest) (.sign [c] :: ls) := by
  have hall : ∀ x ∈ [')', ']', '\x7d'], [x] ∈ ([")", "]", "\x7d"] : List Text) := List.all_iff_forall_prop.mp (by decide)
  exact lexeme [] (.closing due (hall c hc)) (fun _ => beginning_closing hc rest) h

/-- The closing delimiter of a span, behind which nothing is held back. -/
lemma close (front : Text) (hclose : ∀ before, beginning standard isValue false before c (front ++ rest) =
      .close (c :: front).length)
    (h : Outside [] rest ls) :
    Inside isValue [] (c :: (front ++ rest)) ((if isValue then .valueEnd else .blockEnd) :: ls) := by
  rintro before (_ | fuel) place line last hfuel
  · cases hfuel
  · have hdrop : (c :: (front ++ rest)).drop (c :: front).length = rest := List.drop_left
    have hfuel' : rest.length < fuel := by
      simp only [List.length_cons, List.length_append] at hfuel
      omega
    rw [readLexemes]
    simp only [List.isEmpty_nil, Bool.not_true, hclose, hdrop, List.map_cons]
    exact congrArg _ (h 0 _ _ _ hfuel')

lemma close_value (h : Outside [] rest ls) :
    Inside true [] ('\x7d' :: '\x7d' :: rest) (.valueEnd :: ls) :=
  close ['\x7d'] (fun _ => rfl) h

lemma close_statement (h : Outside [] rest ls) :
    Inside false [] ('%' :: '\x7d' :: rest) (.blockEnd :: ls) :=
  close ['\x7d'] (fun _ => rfl) h

end Inside

end ComponentTags.Template
