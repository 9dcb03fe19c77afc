/-
# The loops that read a span

A run of characters, a string literal, the inside of an expression or a statement, and a raw block are each
read by a loop.  The rounds of a loop are written down here without any care for its end: a round goes on
behind what it has read, however long that is.  They move on all the same, as long as no delimiter is empty,
and so the loops end (`run_computes`, `literal_computes`, `body_computes`, `block_computes`).
-/
import ComponentTags.Span
import ComponentTags.Proofs.Loop

namespace ComponentTags

namespace Text

/-- Characters that were skipped before are counted with those in front of the first occurrence. -/
lemma indexFrom_add (needle : Text) (m skipped : Nat) (text : Text) :
    indexFrom needle (m + skipped) text = (indexFrom needle skipped text).map (m + ·) := by
  fun_induction indexFrom needle skipped text with
  | case1 skipped hempty => rw [indexFrom, if_pos hempty, Option.map_some]
  | case2 skipped hempty => rw [indexFrom, if_neg hempty, Option.map_none]
  | case3 skipped c rest hbegins => rw [indexFrom, if_pos hbegins, Option.map_some]
  | case4 skipped c rest hbegins ih => rw [indexFrom, if_neg hbegins, Nat.add_assoc, ih]

/-- Nothing but the empty text occurs in an empty text. -/
lemma index?_nil {needle : Text} (h : needle ≠ []) : index? needle [] = none := by
  rw [index?, indexFrom, if_neg (by simpa using h)]

end Text

/-- A result is not the fault of a span without characters, behind which nothing could be reached. -/
def Unstuck {α : Type} (r : Except Fault α) : Prop := ∀ f, r = .error f → f.cause ≠ .emptySpan

lemma unstuck_ok {α : Type} (a : α) : Unstuck (.ok a : Except Fault α) := nofun

@[simp] lemma unstuck_error_iff {α : Type} {f : Fault} :
    Unstuck (.error f : Except Fault α) ↔ f.cause ≠ .emptySpan := by
  simp [Unstuck]

namespace Span

open Loop (Proceeds Computes later_of_pos)

variable {d : Delimiters} {kind : SpanKind} {rejectNested : Bool} {depth count n : Nat} {text : Text}

/-! ### Runs of characters -/

/-- A round in a run of characters, such as blanks or the letters of a word. -/
def runRound (p : Char → Bool) (x : Cursor Unit) : Cursor Unit ⊕ Nat :=
  match x.rest with
  | [] => .inr x.place
  | c :: rest => if p c then .inl ⟨x.place + 1, rest, ()⟩ else .inr x.place

lemma run_computes (p : Char → Bool) :
    Computes Cursor.place Cursor.rest (runRound p) fun x => x.place + (x.rest.takeWhile p).length := by
  have hproceeds : Proceeds Cursor.place Cursor.rest (runRound p) fun _ => True := by
    rintro ⟨place, _ | ⟨c, rest⟩, _⟩
    · trivial
    · simp only [runRound]
      split
      · exact later_of_pos (List.cons_ne_nil c rest) Nat.one_pos
      · trivial
  refine hproceeds.computes ?_
  rintro ⟨place, _ | ⟨c, rest⟩, _⟩
  · rfl
  · simp only [runRound, List.takeWhile_cons]
    split
    · simp only [Sum.elim_inl, List.length_cons, Nat.add_assoc, Nat.add_comm 1]
    · rfl

/-! ### String literals -/

/-- A round in a string literal: it passes a character, or a backslash with the next one. -/
def literalRound (quote : Char) (x : Cursor Unit) : Cursor Unit ⊕ Nat :=
  match x.rest with
  | [] => .inr x.place
  | ['\\'] => .inr (x.place + 1)
  | '\\' :: _ :: rest => .inl ⟨x.place + 2, rest, ()⟩
  | c :: rest => if c = quote then .inr (x.place + 1) else .inl ⟨x.place + 1, rest, ()⟩

lemma literal_computes (quote : Char) :
    Computes Cursor.place Cursor.rest (literalRound quote)
      fun x => literalLength quote x.place x.rest := by
  have hproceeds : Proceeds Cursor.place Cursor.rest (literalRound quote) fun _ => True := by
    rintro ⟨place, rest, _⟩
    simp only [literalRound]
    split
    · trivial
    · trivial
    · rename_i c rest
      exact later_of_pos (List.cons_ne_nil '\\' (c :: rest)) (Nat.succ_pos 1)
    · rename_i c rest _ _
      split
      · trivial
      · exact later_of_pos (List.cons_ne_nil c rest) Nat.one_pos
  refine hproceeds.computes ?_
  rintro ⟨place, rest, _⟩
  fun_cases literalLength quote place rest with
  | case1 | case2 | case3 => rfl
  | case4 rest => simp [literalRound]
  | case5 c rest hlast hbackslash hne => simp [literalRound, hne]

/-! ### Expressions and statements -/

/-- A round in an expression or a statement: it passes a string literal or a character, which may open or
close a bracket. -/
def bodyRound (d : Delimiters) (kind : SpanKind) (rejectNested : Bool) (x : Cursor Nat) :
    Cursor Nat ⊕ Except Fault Nat :=
  match x.rest with
  | [] => .inr (.error ⟨0, .unterminatedSpan kind⟩)
  | c :: rest =>
    if isQuote c then
      let n := literalLength c 1 rest
      .inl ⟨x.place + n, (c :: rest).drop n, x.found⟩
    else if x.found = 0 && (d.stop kind).isPrefixOf (c :: rest) then
      .inr (.ok (x.place + (d.stop kind).length))
    else if rejectNested && d.expressionStart.isPrefixOf (c :: rest) then
      .inr (.error ⟨x.place, .nestedExpression⟩)
    else .inl ⟨x.place + 1, rest, depthAfter x.found c⟩

/-- The characters of a literal are counted from wherever its beginning is counted. -/
lemma literalLength_add (quote : Char) (m count : Nat) (text : Text) :
    literalLength quote (m + count) text = m + literalLength quote count text := by
  fun_induction literalLength quote count text with
  | case1 | case2 => rfl
  | case3 count c rest ih => rw [literalLength, Nat.add_assoc, ih]
  | case4 count rest => simp [literalLength, Nat.add_assoc]
  | case5 count c rest hlast hbackslash hne ih => simp [literalLength, hne, ih, Nat.add_assoc]

/-- The opening quote of a literal is passed with it. -/
lemma literalLength_one (quote : Char) (text : Text) :
    literalLength quote 1 text = literalLength quote 0 text + 1 := by
  rw [Nat.add_comm, ← literalLength_add]

/-- An expression or a statement is as long as its closing delimiter at least. -/
lemma bodyRound_proceeds (hstop : d.stop kind ≠ []) :
    Proceeds Cursor.place Cursor.rest (bodyRound d kind rejectNested)
      fun r => Unstuck r ∧ ∀ n, r = .ok n → 0 < n := by
  rintro ⟨place, _ | ⟨c, rest⟩, depth⟩
  · exact ⟨by simp, nofun⟩
  · simp only [bodyRound]
    split
    · exact later_of_pos (List.cons_ne_nil c rest) (literalLength_one c rest ▸ Nat.succ_pos _)
    · split
      · refine ⟨unstuck_ok _, ?_⟩
        rintro n ⟨⟩
        exact Nat.add_pos_right _ (List.length_pos_iff.mpr hstop)
      · split
        · exact ⟨by simp, nofun⟩
        · exact later_of_pos (List.cons_ne_nil c rest) Nat.one_pos

lemma bodyLength_eq_round (x : Cursor Nat) :
    bodyLength d kind rejectNested x.found x.place x.rest =
      (bodyRound d kind rejectNested x).elim
        (fun x => bodyLength d kind rejectNested x.found x.place x.rest) id := by
  obtain ⟨place, _ | ⟨c, rest⟩, depth⟩ := x
  · simp [bodyLength, bodyRound]
  · simp only [bodyRound]
    rw [bodyLength]
    split
    · simp only [Sum.elim_inl, literalLength_one, List.drop_succ_cons]
      rw [Nat.add_right_comm, Nat.add_assoc]
    · split
      · rfl
      · split <;> rfl

lemma body_computes (hd : d.NonEmpty) (kind : SpanKind) (rejectNested : Bool) :
    Computes Cursor.place Cursor.rest (bodyRound d kind rejectNested)
      fun x => bodyLength d kind rejectNested x.found x.place x.rest :=
  (bodyRound_proceeds (hd kind).2).computes bodyLength_eq_round

lemma bodyLength_result (hd : d.NonEmpty) :
    Unstuck (bodyLength d kind rejectNested depth count text) ∧
      ∀ n, bodyLength d kind rejectNested depth count text = .ok n → 0 < n :=
  (bodyRound_proceeds (hd kind).2).result bodyLength_eq_round ⟨count, text, depth⟩

/-! ### Raw blocks -/

/-- A round in a raw block: it looks up the next statement, which closes the block or is passed. -/
def blockRound (d : Delimiters) (x : Cursor Unit) : Cursor Unit ⊕ Option Nat :=
  match Text.index? d.statementStart x.rest with
  | none => .inr none
  | some m =>
    if statementName d (x.rest.drop m) = "endraw" then
      .inr <| (Text.indexAfter? d.statementEnd d.statementStart.length (x.rest.drop m)).map
        (x.place + m + · + d.statementEnd.length)
    else
      let n := m + d.statementStart.length
      .inl ⟨x.place + n, x.rest.drop n, ()⟩

/-- Nothing of a raw block is looked up at the end of a text. -/
lemma index?_statementStart_nil (hd : d.NonEmpty) : Text.index? d.statementStart [] = none :=
  Text.index?_nil (hd .statement).1

/-- A raw block has the closing delimiter of the statement that closes it. -/
lemma blockRound_proceeds (hd : d.NonEmpty) :
    Proceeds Cursor.place Cursor.rest (blockRound d) fun r => ∀ n, r = some n → 0 < n := by
  have hstart : 0 < d.statementStart.length := List.length_pos_iff.mpr (hd .statement).1
  have hend : 0 < d.statementEnd.length := List.length_pos_iff.mpr (hd .statement).2
  rintro ⟨place, rest, _⟩
  simp only [blockRound]
  split
  · nofun
  · rename_i m hindex
    split
    · intro n hn
      obtain ⟨k, -, rfl⟩ := Option.map_eq_some_iff.mp hn
      exact Nat.add_pos_right _ hend
    · refine later_of_pos ?_ (Nat.add_pos_right _ hstart)
      rintro rfl
      rw [index?_statementStart_nil hd] at hindex
      cases hindex

/-- Up to the next statement nothing closes a raw block. -/
lemma rawLength_eq_round (hd : d.NonEmpty) (x : Cursor Unit) :
    rawLength d x.place x.rest = (blockRound d x).elim (fun x => rawLength d x.place x.rest) id := by
  have hpos : 0 < d.statementStart.length := List.length_pos_iff.mpr (hd .statement).1
  obtain ⟨place, text, -⟩ := x
  simp only [blockRound]
  induction text generalizing place with
  | nil =>
    rw [index?_statementStart_nil hd, rawLength]
    rfl
  | cons c rest ih =>
    rw [Text.index?, Text.indexFrom, rawLength]
    split
    · obtain ⟨m, hm⟩ : ∃ m, d.statementStart.length = m + 1 := ⟨_, (Nat.sub_add_cancel hpos).symm⟩
      simp only [List.drop_zero, Nat.add_zero, Nat.zero_add, hm, Nat.add_sub_cancel]
      split
      · rfl
      · simp only [Sum.elim_inl, List.drop_succ_cons, Nat.add_assoc, Nat.add_comm 1]
    · rw [ih, Text.index?, Text.indexFrom_add _ 1 0]
      cases Text.indexFrom d.statementStart 0 rest with
      | none => rfl
      | some m =>
        have hplace : ∀ k, place + 1 + k = place + (k + 1) := by omega
        simp only [Option.map_some, Nat.add_comm 1, List.drop_succ_cons, hplace, Nat.add_right_comm m 1]

lemma block_computes (hd : d.NonEmpty) :
    Computes Cursor.place Cursor.rest (blockRound d) fun x => rawLength d x.place x.rest :=
  (blockRound_proceeds hd).computes (rawLength_eq_round hd)

lemma rawBlockLength_result (hd : d.NonEmpty) (text : Text) :
    Unstuck (rawBlockLength d text) ∧ ∀ n, rawBlockLength d text = .ok n → 0 < n := by
  unfold rawBlockLength
  split
  · exact ⟨by simp, nofun⟩
  · split
    · exact ⟨by simp, nofun⟩
    · rename_i count _ _ length hraw
      refine ⟨unstuck_ok _, ?_⟩
      rintro _ ⟨⟩
      exact (blockRound_proceeds hd).result (rawLength_eq_round hd) ⟨count, text.drop count, ()⟩ length hraw

/-! ### Lengths of spans -/

/-- A span takes at least one character, and one that has no end does not fail for having none. -/
lemma length_result (hd : d.NonEmpty) (rejectNested : Bool) (text : Text) :
    Unstuck (length d rejectNested text) ∧ ∀ n, length d rejectNested text = .ok n → 0 < n := by
  unfold length
  split
  · exact ⟨by simp, nofun⟩
  · split
    · exact ⟨by simp, nofun⟩
    · refine ⟨unstuck_ok _, ?_⟩
      rintro n ⟨⟩
      exact Nat.add_pos_right _ (List.length_pos_iff.mpr (hd .comment).2)
  · split
    · exact rawBlockLength_result hd text
    · exact bodyLength_result hd

lemma length_cases (hd : d.NonEmpty) (rejectNested : Bool) (text : Text) :
    (∃ f, length d rejectNested text = .error f ∧ f.cause ≠ .emptySpan) ∨
      ∃ n, length d rejectNested text = .ok (n + 1) := by
  obtain ⟨hunstuck, hpos⟩ := length_result hd rejectNested text
  cases hlength : length d rejectNested text with
  | error f => exact .inl ⟨f, rfl, hunstuck f hlength⟩
  | ok n => exact .inr ⟨n - 1, by rw [Nat.sub_add_cancel (hpos n hlength)]⟩

end Span

end ComponentTags
