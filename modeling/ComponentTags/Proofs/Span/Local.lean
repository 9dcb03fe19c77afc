/-
# Spans are local

Where a span ends is decided by the span alone: whatever follows it, a text that begins with it has
that span in front (`whole_of_length`).  An expression or a statement is an opening delimiter, an
inside (`Inside`) and a closing delimiter, and the inside says by its own characters that the closing
delimiter is not met earlier (`bodyLength_eq_ok_iff`).  A text whose spans are changed one by one is
therefore taken apart at the same places again.

The delimiters are the standard ones, each of which is two characters long and begins with a character
that is neither a quote nor part of a name.
-/
import ComponentTags.Span
import Mathlib.Tactic.Common

namespace ComponentTags

namespace Text

/-- A prefix of a text that goes on behind a part as long as the prefix lies in that part. -/
lemma prefix_append_iff {a b c : Text} (h : a.length ≤ b.length) : a <+: b ++ c ↔ a <+: b :=
  ⟨fun hbegins => List.prefix_of_prefix_length_le hbegins (List.prefix_append b c) h,
    fun hbegins => hbegins.trans (List.prefix_append b c)⟩

/-- What is found first in a text is found there whatever follows it. -/
lemma indexFrom_local {needle text : Text} {skipped n : Nat} (hneedle : needle ≠ [])
    (h : indexFrom needle skipped text = some n) :
    ∃ front behind, text = front ++ (needle ++ behind) ∧ n = skipped + front.length ∧
      ∀ other, indexFrom needle skipped (front ++ (needle ++ other)) = some n := by
  fun_induction indexFrom needle skipped text with
  | case1 skipped hempty => exact absurd (List.isEmpty_iff.mp hempty) hneedle
  | case2 => cases h
  | case3 skipped c rest hbegins =>
    cases h
    obtain ⟨behind, hbehind⟩ := List.isPrefixOf_iff_prefix.mp hbegins
    refine ⟨[], behind, hbehind.symm, rfl, fun other => ?_⟩
    obtain ⟨x, more, rfl⟩ := List.exists_cons_of_ne_nil hneedle
    have hmet := List.isPrefixOf_iff_prefix.mpr (List.prefix_append (x :: more) other)
    rw [List.cons_append] at hmet
    rw [List.nil_append, List.cons_append, indexFrom, if_pos hmet]
  | case4 skipped c rest hbegins ih =>
    obtain ⟨front, behind, rfl, rfl, hother⟩ := ih h
    refine ⟨c :: front, behind, rfl, by simp; omega, fun other => ?_⟩
    -- the text in front with the needle behind it is long enough to tell
    have hlocal : ∀ x, needle <+: c :: (front ++ (needle ++ x)) ↔ needle <+: c :: (front ++ needle) :=
      fun x => by
        rw [← List.append_assoc, ← List.cons_append]
        exact prefix_append_iff (by simp; omega)
    have hno : ¬needle.isPrefixOf (c :: (front ++ (needle ++ other))) = true := by
      rwa [List.isPrefixOf_iff_prefix, hlocal, ← hlocal behind, ← List.isPrefixOf_iff_prefix]
    rw [List.cons_append, indexFrom, if_neg hno]
    exact hother other

lemma indexAfter?_local {needle text : Text} {skipped n : Nat} (hneedle : needle ≠ [])
    (h : indexAfter? needle skipped text = some n) :
    ∃ begun front behind, text = begun ++ (front ++ (needle ++ behind)) ∧ begun.length = skipped ∧
      n = skipped + front.length ∧
      ∀ other, indexAfter? needle skipped (begun ++ (front ++ (needle ++ other))) = some n := by
  unfold indexAfter? at h
  split at h
  · cases h
  rename_i hlength
  obtain ⟨front, behind, hdrop, hn, hother⟩ := indexFrom_local hneedle h
  have hbegun : (text.take skipped).length = skipped := by
    rw [List.length_take]
    omega
  refine ⟨text.take skipped, front, behind, ?_, hbegun, hn, fun other => ?_⟩
  · rw [← hdrop, List.take_append_drop]
  · rw [indexAfter?, if_neg (by simp; omega), List.drop_left' hbegun]
    exact hother other

end Text

namespace Span

open Delimiters (standard)

/-! ### String literals -/

/-- What follows the opening quote of a string literal, up to and with the closing quote. -/
inductive Literal (quote : Char) : Text → Prop
  /-- The closing quote. -/
  | close : Literal quote [quote]
  /-- A backslash with the character behind it. -/
  | escaped {c : Char} {rest : Text} (h : Literal quote rest) : Literal quote ('\\' :: c :: rest)
  /-- Any other character. -/
  | char {c : Char} {rest : Text} (hc : c ≠ '\\') (hquote : c ≠ quote) (h : Literal quote rest) :
      Literal quote (c :: rest)

lemma isQuote_iff {c : Char} : isQuote c = true ↔ c = '\'' ∨ c = '"' := by
  simp [isQuote]

lemma ne_backslash_of_isQuote {c : Char} (h : isQuote c = true) : c ≠ '\\' := by
  rcases isQuote_iff.mp h with rfl | rfl <;> decide

lemma literalLength_cons {quote c : Char} {count : Nat} {rest : Text} (hc : c ≠ '\\') :
    literalLength quote count (c :: rest) =
      if c = quote then count + 1 else literalLength quote (count + 1) rest := by
  rw [literalLength]
  · rintro rfl
    exact absurd rfl hc
  · rintro _ _ rfl
    exact absurd rfl hc

/-- A literal ends with its closing quote, whatever follows. -/
lemma Literal.length_eq {quote : Char} (hquote : quote ≠ '\\') {text : Text} (h : Literal quote text)
    (count : Nat) (rest : Text) :
    literalLength quote count (text ++ rest) = count + text.length := by
  induction h generalizing count with
  | close => simp [literalLength_cons hquote]
  | escaped h ih =>
    simp only [List.cons_append, literalLength, ih, List.length_cons]
    omega
  | char hc hne h ih =>
    simp only [List.cons_append, literalLength_cons hc, if_neg hne, ih, List.length_cons]
    omega

/-- A literal without a closing quote goes up to the end of the text. -/
lemma literal_or_length_eq (quote : Char) (count : Nat) (text : Text) :
    (∃ front behind, text = front ++ behind ∧ Literal quote front ∧
      literalLength quote count text = count + front.length) ∨
      literalLength quote count text = count + text.length := by
  fun_induction literalLength quote count text with
  | case1 => exact .inr rfl
  | case2 => exact .inr rfl
  | case3 count c rest ih =>
    obtain ⟨front, behind, rfl, hfront, hlength⟩ | hlength := ih
    · refine .inl ⟨'\\' :: c :: front, behind, rfl, hfront.escaped, ?_⟩
      rw [hlength, List.length_cons, List.length_cons]
      omega
    · right
      rw [hlength, List.length_cons, List.length_cons]
      omega
  | case4 count rest =>
    exact .inl ⟨[quote], rest, rfl, .close, rfl⟩
  | case5 count c rest hlast hbackslash hne ih =>
    have hc : c ≠ '\\' := by
      rintro rfl
      cases rest with
      | nil => exact hlast rfl rfl
      | cons x rest => exact hbackslash x rest rfl rfl
    obtain ⟨front, behind, rfl, hfront, hlength⟩ | hlength := ih
    · refine .inl ⟨c :: front, behind, rfl, hfront.char hc hne, ?_⟩
      rw [hlength, List.length_cons]
      omega
    · right
      rw [hlength, List.length_cons]
      omega

/-! ### The inside of a span -/

/-- What is between the delimiters of an expression or a statement of which `depth` brackets are open:
outside of literals and brackets the closing delimiter does not occur. -/
inductive Inside (stop : Text) : Nat → Text → Prop
  | done : Inside stop 0 []
  /-- A string literal behind its opening quote. -/
  | literal {depth : Nat} {quote : Char} {text rest : Text} (hquote : isQuote quote = true)
      (htext : Literal quote text) (next : Inside stop depth rest) :
      Inside stop depth (quote :: (text ++ rest))
  /-- Any other character.  The closing delimiter would be met in front of the end. -/
  | char {depth : Nat} {c : Char} {rest : Text} (hquote : isQuote c = false)
      (hstop : depth = 0 → ¬stop <+: c :: (rest ++ stop))
      (next : Inside stop (depthAfter depth c) rest) : Inside stop depth (c :: rest)

variable {stop : Text} {depth count n : Nat}

/-- The closing delimiter ends a span at the first place that is outside of its inside. -/
theorem bodyLength_eq_ok_iff {d : Delimiters} {kind : SpanKind} {text : Text}
    (hstop : (d.stop kind).head?.any isQuote = false) (hne : d.stop kind ≠ []) :
    bodyLength d kind false depth count text = .ok n ↔
      ∃ inside behind, text = inside ++ (d.stop kind ++ behind) ∧ Inside (d.stop kind) depth inside ∧
        n = count + inside.length + (d.stop kind).length := by
  constructor
  · intro h
    fun_induction bodyLength d kind false depth count text with
    | case1 => cases h
    | case2 depth count c rest hquote k ih =>
      obtain ⟨inside, behind, hrest, hinside, rfl⟩ := ih h
      -- behind an open literal nothing would be left for the closing delimiter
      obtain ⟨front, more, rfl, hfront, hk⟩ | hk := literal_or_length_eq c 0 rest
      · simp only [k, hk, Nat.zero_add, List.drop_left] at hrest
        subst hrest
        refine ⟨c :: (front ++ inside), behind, by simp, .literal hquote hfront hinside, ?_⟩
        simp only [k, hk, List.length_cons, List.length_append]
        omega
      · rw [show k = rest.length by simp [k, hk], List.drop_length] at hrest
        simp [hne] at hrest
    | case3 depth count c rest hquote hbegins =>
      cases h
      obtain ⟨rfl, hbegins⟩ : depth = 0 ∧ (d.stop kind).isPrefixOf (c :: rest) = true := by
        simpa using hbegins
      obtain ⟨behind, hbehind⟩ := List.isPrefixOf_iff_prefix.mp hbegins
      exact ⟨[], behind, hbehind.symm, .done, rfl⟩
    | case4 _ _ _ _ _ _ hnested => simp at hnested
    | case5 depth count c rest hquote hbegins hnested ih =>
      obtain ⟨inside, behind, rfl, hinside, rfl⟩ := ih h
      refine ⟨c :: inside, behind, rfl, .char (by simpa using hquote) ?_ hinside, ?_⟩
      · rintro rfl hmet
        have hlonger : c :: (inside ++ d.stop kind) <+: c :: (inside ++ (d.stop kind ++ behind)) :=
          ⟨behind, by simp⟩
        exact hbegins (by simpa using hmet.trans hlonger)
      · rw [List.length_cons]
        omega
  · rintro ⟨inside, behind, rfl, hinside, rfl⟩
    induction hinside generalizing count with
    | done =>
      obtain ⟨c, rest, hstop'⟩ := List.exists_cons_of_ne_nil hne
      rw [hstop'] at hstop
      simp only [List.nil_append, hstop', List.cons_append]
      rw [bodyLength, if_neg (by simpa using hstop), if_pos (by simp [hstop']), hstop']
      rfl
    | @literal depth quote text rest hquote htext _ ih =>
      simp only [List.cons_append, List.append_assoc]
      rw [bodyLength, if_pos hquote]
      simp only [htext.length_eq (ne_backslash_of_isQuote hquote), Nat.zero_add, List.drop_left, ih,
        List.length_cons, List.length_append, Except.ok.injEq]
      omega
    | @char depth c rest hquote hmet _ ih =>
      have hlocal : d.stop kind <+: c :: (rest ++ (d.stop kind ++ behind)) ↔
          d.stop kind <+: c :: (rest ++ d.stop kind) := by
        rw [← List.append_assoc, ← List.cons_append]
        exact Text.prefix_append_iff (by simp; omega)
      rw [List.cons_append, bodyLength, if_neg (by simp [hquote]), if_neg, if_neg (by simp), ih,
        List.length_cons]
      · simp only [Except.ok.injEq]
        omega
      · simp only [Bool.and_eq_true, decide_eq_true_eq, List.isPrefixOf_iff_prefix, hlocal, not_and]
        exact hmet

/-! ### The standard delimiters -/

lemma stop_standard {kind : SpanKind} (hkind : kind ≠ .comment) :
    (standard.stop kind).head?.any isQuote = false ∧ standard.stop kind ≠ [] := by
  cases kind with
  | expression | statement => decide
  | comment => exact absurd rfl hkind

/-- A span begins with the opening delimiter of its kind, and no two kinds begin alike. -/
lemma kindAt?_eq_some_iff {kind : SpanKind} {text : Text} :
    kindAt? standard text = some kind ↔ standard.start kind <+: text := by
  have hstart : standard.expressionStart = ['\x7b', '\x7b'] ∧
      standard.statementStart = ['\x7b', '%'] ∧ standard.commentStart = ['\x7b', '#'] := by decide
  obtain ⟨hexpression, hstatement, hcomment⟩ := hstart
  match text with
  | [] => cases kind <;> simp [kindAt?, Delimiters.start, *]
  | [a] => cases kind <;> simp [kindAt?, Delimiters.start, *]
  | a :: b :: rest =>
    cases kind <;> simp [kindAt?, Delimiters.start, *] <;> grind

/-- Whether a span begins is decided by two characters. -/
lemma kindAt?_eq_none_of_head {c : Char} {rest other : Text}
    (h : kindAt? standard (c :: rest) = none) (hhead : other.head? = rest.head?) :
    kindAt? standard (c :: other) = none := by
  match rest, other, hhead with
  | [], [], _ => exact h
  | a :: rest, b :: other, hhead =>
    obtain rfl : b = a := by simpa using hhead
    cases hkind : kindAt? standard (c :: b :: other) with
    | none => rfl
    | some kind =>
      have hstart := kindAt?_eq_some_iff.mp hkind
      have htwo : (standard.start kind).length = 2 := by cases kind <;> rfl
      have hbegins : standard.start kind <+: [c, b] ++ other := hstart
      rw [Text.prefix_append_iff (by simp [htwo])] at hbegins
      have hsome := kindAt?_eq_some_iff.mpr (hbegins.trans (List.prefix_append [c, b] rest))
      simp only [List.cons_append, List.nil_append] at hsome
      rw [h] at hsome
      cases hsome

/-! ### The first word of a statement -/

/-- The first word of what is inside a statement. -/
def firstWord (inside : Text) : Text :=
  ((dropControlSign inside).dropWhile Text.isBlank).takeWhile Text.isWordChar

/-- The first word of a statement ends in front of the closing delimiter. -/
lemma statementName_eq (inside behind : Text) :
    statementName standard
      (standard.statementStart ++ (inside ++ (standard.statementEnd ++ behind))) =
        firstWord inside := by
  have hend : standard.statementEnd = ['%', '\x7d'] := by decide
  have hblank : Text.isBlank '%' = false := by decide
  have hword : Text.isWordChar '%' = false := by decide
  have hsign : isControlSign '%' = false := by decide
  -- neither the sign nor the blanks nor the characters of a word reach over the delimiter
  have hdrop : dropControlSign (inside ++ (standard.statementEnd ++ behind)) =
      dropControlSign inside ++ (standard.statementEnd ++ behind) := by
    cases inside with
    | nil => simp [dropControlSign, hend, hsign]
    | cons c rest =>
      simp only [List.cons_append, dropControlSign]
      split <;> rfl
  have htrim : ∀ text : Text, (text ++ (standard.statementEnd ++ behind)).dropWhile Text.isBlank =
      text.dropWhile Text.isBlank ++ (standard.statementEnd ++ behind) := by
    intro text
    rw [List.dropWhile_append]
    split
    · rename_i hempty
      rw [List.isEmpty_iff.mp hempty]
      simp [hend, hblank]
    · rfl
  rw [statementName, List.drop_left, hdrop, Text.trimStart, htrim, List.takeWhile_append, firstWord]
  split
  · rename_i hall
    rw [(List.takeWhile_prefix _).eq_of_length hall]
    simp [hend, hword]
  · rfl

/-! ### Raw blocks -/

lemma rawLength_statement (text : Text) :
    rawLength standard count (standard.statementStart ++ text) =
      if statementName standard (standard.statementStart ++ text) = "endraw" then
        (Text.indexAfter? standard.statementEnd 2 (standard.statementStart ++ text)).map
          (count + · + 2)
      else rawLength standard (count + 2) text := by
  have hstart : standard.statementStart = ['\x7b', '%'] := by decide
  have hend : standard.statementEnd.length = 2 := by decide
  rw [hstart, List.cons_append, rawLength, if_pos (by simp [hstart])]
  simp only [hstart, hend, List.length_cons, List.length_nil]
  rfl

lemma rawLength_character {c : Char} {rest : Text} (h : ¬standard.statementStart <+: c :: rest) :
    rawLength standard count (c :: rest) = rawLength standard (count + 1) rest := by
  rw [rawLength, if_neg (by rwa [List.isPrefixOf_iff_prefix])]

/-- A raw block ends with a statement, whatever follows it. -/
lemma rawLength_local {text : Text} (h : rawLength standard count text = some n) :
    ∃ front behind, text = front ++ (standard.statementEnd ++ behind) ∧ 2 ≤ front.length ∧
      n = count + front.length + 2 ∧
      ∀ other, rawLength standard count (front ++ (standard.statementEnd ++ other)) = some n := by
  have hstart : standard.statementStart.length = 2 := by decide
  have hend : standard.statementEnd.length = 2 := by decide
  induction hlength : text.length using Nat.strongRecOn generalizing text count n with
  | ind length ih =>
  subst hlength
  by_cases hbegins : standard.statementStart <+: text
  · obtain ⟨rest, rfl⟩ := hbegins
    rw [rawLength_statement] at h
    split at h
    · -- the statement that closes the block
      rename_i hname
      obtain ⟨m, hm, rfl⟩ := Option.map_eq_some_iff.mp h
      obtain ⟨begun, front, behind, htext, hbegun, rfl, hother⟩ :=
        Text.indexAfter?_local (by decide) hm
      obtain ⟨rfl, rfl⟩ := List.append_inj htext (by rw [hbegun, hstart])
      refine ⟨standard.statementStart ++ front, behind, by simp, by simp [hstart], ?_, fun other => ?_⟩
      · rw [List.length_append, hstart, Nat.add_assoc]
      · rw [statementName_eq] at hname
        rw [List.append_assoc, rawLength_statement, statementName_eq, if_pos hname, hother]
        rfl
    · -- another statement, which is skipped
      rename_i hname
      obtain ⟨front, behind, rfl, -, rfl, hother⟩ := ih _ (by simp [hstart]) h rfl
      refine ⟨standard.statementStart ++ front, behind, by simp, by simp [hstart], ?_, fun other => ?_⟩
      · rw [List.length_append, hstart]
        omega
      · rw [statementName_eq] at hname
        rw [List.append_assoc, rawLength_statement, statementName_eq, if_neg hname, hother]
  · cases text with
    | nil => simp [rawLength] at h
    | cons c rest =>
      rw [rawLength_character hbegins] at h
      obtain ⟨front, behind, rfl, htwo, rfl, hother⟩ := ih _ (by simp) h rfl
      refine ⟨c :: front, behind, rfl, by simp; omega, by simp; omega, fun other => ?_⟩
      -- two characters decide that no statement begins
      have hno : ¬standard.statementStart <+: c :: (front ++ (standard.statementEnd ++ other)) := by
        have hlocal : ∀ x : Text, standard.statementStart <+: (c :: front) ++ x ↔
            standard.statementStart <+: c :: front :=
          fun x => Text.prefix_append_iff (by simp [hstart]; omega)
        rw [← List.cons_append, hlocal]
        rwa [← List.cons_append, hlocal] at hbegins
      rw [List.cons_append, rawLength_character hno, hother]

/-! ### Whole spans -/

/-- A text is a span of a kind, whatever follows it. -/
structure Whole (kind : SpanKind) (span : Text) : Prop where
  kindAt?_eq : ∀ behind, kindAt? standard (span ++ behind) = some kind
  length_eq : ∀ behind, length standard false (span ++ behind) = .ok span.length
  statementName_eq : ∀ behind, kind = .statement →
    statementName standard (span ++ behind) = statementName standard span

/-- Whether a span is left alone when variables are looked for: a comment or a raw block. -/
def IsSkipped (kind : SpanKind) (span : Text) : Prop :=
  kind = .comment ∨ kind = .statement ∧ statementName standard span = "raw"

instance (kind : SpanKind) (span : Text) : Decidable (IsSkipped kind span) :=
  inferInstanceAs (Decidable (_ ∨ _ ∧ _))

/-- An expression or a statement with its delimiters. -/
def enclosed (kind : SpanKind) (inside : Text) : Text :=
  standard.start kind ++ (inside ++ standard.stop kind)

lemma length_start (kind : SpanKind) : (standard.start kind).length = 2 := by
  cases kind <;> rfl

lemma length_stop (kind : SpanKind) : (standard.stop kind).length = 2 := by
  cases kind <;> rfl

lemma length_enclosed (kind : SpanKind) (inside : Text) :
    (enclosed kind inside).length = inside.length + 4 := by
  simp only [enclosed, List.length_append, length_start, length_stop]
  omega

lemma statementName_enclosed (inside behind : Text) :
    statementName standard (enclosed .statement inside ++ behind) = firstWord inside := by
  rw [enclosed, List.append_assoc, List.append_assoc]
  exact statementName_eq inside behind

/-- The end of an expression or of a statement that does not open a raw block. -/
lemma length_eq_bodyLength {kind : SpanKind} {text : Text} {rejectNested : Bool}
    (hkind : kind ≠ .comment) (hkindAt : kindAt? standard text = some kind)
    (hraw : ¬(kind = .statement ∧ statementName standard text = "raw")) :
    length standard rejectNested text = bodyLength standard kind rejectNested 0 2 (text.drop 2) := by
  unfold length
  rw [hkindAt]
  cases kind with
  | comment => exact absurd rfl hkind
  | expression => rfl
  | statement =>
    simp only [true_and] at hraw
    simp only [hraw, decide_true, decide_false, Bool.and_false, Bool.false_eq_true, if_false]
    rfl

/-- What is enclosed by the delimiters of an expression or of a statement is a whole span. -/
lemma whole_enclosed {kind : SpanKind} {inside : Text} (hinside : Inside (standard.stop kind) 0 inside)
    (hraw : ¬IsSkipped kind (enclosed kind inside)) : Whole kind (enclosed kind inside) := by
  have hkind : kind ≠ .comment := fun h => hraw (.inl h)
  have hkindAt : ∀ behind, kindAt? standard (enclosed kind inside ++ behind) = some kind :=
    fun behind => kindAt?_eq_some_iff.mpr ⟨inside ++ standard.stop kind ++ behind, by simp [enclosed]⟩
  have hname : ∀ behind, kind = .statement →
      statementName standard (enclosed kind inside ++ behind) =
        statementName standard (enclosed kind inside) := by
    rintro behind rfl
    rw [statementName_enclosed, ← List.append_nil (enclosed _ _), statementName_enclosed]
  refine ⟨hkindAt, fun behind => ?_, hname⟩
  have hnot : ¬(kind = .statement ∧
      statementName standard (enclosed kind inside ++ behind) = "raw") := by
    rintro ⟨hstatement, hword⟩
    exact hraw (.inr ⟨hstatement, hname behind hstatement ▸ hword⟩)
  rw [length_eq_bodyLength hkind (hkindAt behind) hnot, enclosed, List.append_assoc,
    List.drop_left' (length_start kind), bodyLength_eq_ok_iff (stop_standard hkind).1
      (stop_standard hkind).2]
  refine ⟨inside, behind, by simp, hinside, ?_⟩
  simp only [List.length_append, length_start]
  omega

lemma length_comment {text : Text} (hkind : kindAt? standard text = some .comment) :
    length standard false text =
      match Text.indexAfter? standard.commentEnd 2 text with
      | none => .error ⟨0, .unterminatedSpan .comment⟩
      | some n => .ok (n + 2) := by
  unfold length
  rw [hkind]
  rfl

lemma length_raw {text : Text} (hkind : kindAt? standard text = some .statement)
    (hraw : statementName standard text = "raw") :
    length standard false text = rawBlockLength standard text := by
  unfold length
  rw [hkind]
  simp [hraw]

/-- The comment that begins a text. -/
lemma whole_of_length_comment {text : Text} (hkind : kindAt? standard text = some .comment)
    (hlength : length standard false text = .ok n) :
    ∃ inside behind, text = enclosed .comment inside ++ behind ∧
      (enclosed .comment inside).length = n ∧ Whole .comment (enclosed .comment inside) := by
  have hend : standard.commentEnd.length = 2 := by decide
  rw [length_comment hkind] at hlength
  split at hlength
  · cases hlength
  rename_i m hm
  cases hlength
  obtain ⟨begun, inside, behind, rfl, hbegun, rfl, hother⟩ := Text.indexAfter?_local (by decide) hm
  obtain rfl : begun = standard.commentStart := by
    obtain ⟨rest, hrest⟩ := kindAt?_eq_some_iff.mp hkind
    exact (List.append_inj hrest (by rw [hbegun, length_start])).1.symm
  have hkindAt : ∀ other, kindAt? standard
      (standard.commentStart ++ (inside ++ (standard.commentEnd ++ other))) = some .comment :=
    fun other => kindAt?_eq_some_iff.mpr (List.prefix_append _ _)
  have hspan : ∀ other, enclosed .comment inside ++ other =
      standard.commentStart ++ (inside ++ (standard.commentEnd ++ other)) := fun other => by
    simp [enclosed, Delimiters.start, Delimiters.stop]
  refine ⟨inside, behind, (hspan behind).symm, ?_, fun other => ?_, fun other => ?_, by simp⟩
  · rw [length_enclosed]
    omega
  · rw [hspan, hkindAt]
  · rw [hspan, length_comment (hkindAt other), hother, length_enclosed]
    simp only [Except.ok.injEq]
    omega

/-- The raw block that begins a text. -/
lemma whole_of_length_raw {text : Text} (hkind : kindAt? standard text = some .statement)
    (hraw : statementName standard text = "raw") (hlength : length standard false text = .ok n) :
    ∃ inside behind, text = enclosed .statement inside ++ behind ∧
      (enclosed .statement inside).length = n ∧ Whole .statement (enclosed .statement inside) ∧
      statementName standard (enclosed .statement inside) = "raw" := by
  have hstart : standard.statementStart.length = 2 := by decide
  have hend : standard.statementEnd.length = 2 := by decide
  rw [length_raw hkind hraw, rawBlockLength] at hlength
  split at hlength
  · cases hlength
  rename_i m hm
  split at hlength
  · cases hlength
  rename_i k hk
  cases hlength
  obtain ⟨begun, inside, behind, rfl, hbegun, rfl, hopening⟩ :=
    Text.indexAfter?_local (by decide) hm
  obtain rfl : begun = standard.statementStart := by
    obtain ⟨rest, hrest⟩ := kindAt?_eq_some_iff.mp hkind
    exact (List.append_inj hrest hbegun.symm).1.symm
  have hdrop : ∀ other : Text, (standard.statementStart ++ (inside ++ other)).drop
      (standard.statementStart.length + inside.length) = other := by
    intro other
    rw [← List.append_assoc, ← List.length_append, List.drop_left]
  rw [hdrop] at hk
  -- the block begins with the delimiter that closes its opening statement
  obtain ⟨front, behind, hblock, htwo, rfl, hclosing⟩ := rawLength_local hk
  obtain ⟨block, rfl⟩ : standard.statementEnd <+: front :=
    List.prefix_of_prefix_length_le ⟨_, rfl⟩ ⟨_, hblock.symm⟩ (by rw [hend]; exact htwo)
  rw [List.append_assoc, List.append_cancel_left_eq] at hblock
  subst hblock
  have hkindAt : ∀ other, kindAt? standard (standard.statementStart ++ other) = some .statement :=
    fun other => kindAt?_eq_some_iff.mpr (List.prefix_append _ _)
  rw [statementName_eq] at hraw
  -- what is between the first and the last delimiter
  set whole := inside ++ (standard.statementEnd ++ block) with hwhole
  have hspan : ∀ other, enclosed .statement whole ++ other = standard.statementStart ++
      (inside ++ (standard.statementEnd ++ (block ++ (standard.statementEnd ++ other)))) :=
    fun other => by simp [enclosed, Delimiters.start, Delimiters.stop, hwhole]
  have hname : ∀ other, statementName standard (enclosed .statement whole ++ other) =
      firstWord inside := fun other => by rw [hspan, statementName_eq]
  have hname' := hname []
  rw [List.append_nil] at hname'
  have hlength : (enclosed .statement whole).length = inside.length + block.length + 6 := by
    rw [length_enclosed, hwhole]
    simp only [List.length_append, hend]
    omega
  refine ⟨whole, behind, (hspan behind).symm, ?_,
    ⟨fun other => ?_, fun other => ?_, fun other _ => ?_⟩, ?_⟩
  · rw [hlength, hstart, List.length_append, hend]
    omega
  · rw [hspan, hkindAt]
  · rw [length_raw (by rw [hspan, hkindAt]) (by rw [hname, hraw]), hspan, rawBlockLength, hopening]
    have hother := hclosing other
    rw [List.append_assoc] at hother
    simp only [hdrop, hother]
    rw [hlength, hstart, List.length_append, hend]
    simp only [Except.ok.injEq]
    omega
  · rw [hname, hname']
  · rw [hname', hraw]

/-- The span that begins a text is a whole span, enclosed by the delimiters of its kind.  Unless it is
skipped, its inside says where it ends. -/
theorem enclosed_of_length {kind : SpanKind} {text : Text} (hkind : kindAt? standard text = some kind)
    (hlength : length standard false text = .ok n) :
    ∃ inside behind, text = enclosed kind inside ++ behind ∧ (enclosed kind inside).length = n ∧
      Whole kind (enclosed kind inside) ∧
      (IsSkipped kind (enclosed kind inside) ∨ Inside (standard.stop kind) 0 inside) := by
  by_cases hcomment : kind = .comment
  · subst hcomment
    obtain ⟨inside, behind, htext, hspan, hwhole⟩ := whole_of_length_comment hkind hlength
    exact ⟨inside, behind, htext, hspan, hwhole, .inl (.inl rfl)⟩
  by_cases hraw : kind = .statement ∧ statementName standard text = "raw"
  · obtain ⟨rfl, hraw⟩ := hraw
    obtain ⟨inside, behind, htext, hspan, hwhole, hname⟩ := whole_of_length_raw hkind hraw hlength
    exact ⟨inside, behind, htext, hspan, hwhole, .inl (.inr ⟨rfl, hname⟩)⟩
  · rw [length_eq_bodyLength hcomment hkind hraw, bodyLength_eq_ok_iff (stop_standard hcomment).1
      (stop_standard hcomment).2] at hlength
    obtain ⟨inside, behind, hdrop, hinside, rfl⟩ := hlength
    obtain ⟨rest, rfl⟩ := kindAt?_eq_some_iff.mp hkind
    rw [List.drop_left' (length_start kind)] at hdrop
    subst hdrop
    have hnot : ¬IsSkipped kind (enclosed kind inside) := by
      rintro (h | ⟨rfl, h⟩)
      · exact hcomment h
      · rw [← List.append_nil (enclosed _ _), statementName_enclosed] at h
        exact hraw ⟨rfl, by rw [← h]; exact statementName_eq inside behind⟩
    refine ⟨inside, behind, by simp [enclosed], ?_, whole_enclosed hinside hnot, .inr hinside⟩
    rw [length_enclosed, length_stop]
    omega

/-- The span that begins a text is a whole span.  Unless it is skipped, it is enclosed by delimiters,
and its inside says where it ends. -/
theorem whole_of_length {kind : SpanKind} {text : Text} (hkind : kindAt? standard text = some kind)
    (hlength : length standard false text = .ok n) :
    ∃ span behind, text = span ++ behind ∧ span.length = n ∧ Whole kind span ∧
      (IsSkipped kind span ∨
        ∃ inside, span = enclosed kind inside ∧ Inside (standard.stop kind) 0 inside) := by
  obtain ⟨inside, behind, htext, hspan, hwhole, hinside⟩ := enclosed_of_length hkind hlength
  exact ⟨_, behind, htext, hspan, hwhole, hinside.imp_right fun h => ⟨inside, rfl, h⟩⟩

end Span

end ComponentTags
