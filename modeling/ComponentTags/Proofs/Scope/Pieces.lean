/-
# Pieces of a text

A text is taken apart into pieces at places that its spans decide by themselves.  `Splits` says what
the pieces of a text are without saying how they are found, and `pieces` finds them
(`pieces_eq_ok_iff`).  A span is taken apart further into the delimiters with their control signs and
a body (`split_enclosed`).
-/
import ComponentTags.Scope.Capture
import ComponentTags.Proofs.Span.Local

namespace ComponentTags

open Delimiters (standard)
open ComponentTags.Span (Inside Whole IsSkipped enclosed)

/-! ### The pieces -/

/-- A text consists of some pieces. -/
inductive Splits : Text → List Piece → Prop
  | nil : Splits [] []
  /-- A character at which no span begins. -/
  | character {c : Char} {rest : Text} {ps : List Piece}
      (hkind : Span.kindAt? standard (c :: rest) = none) (next : Splits rest ps) :
      Splits (c :: rest) (.verbatim [c] :: ps)
  /-- A comment or a raw block. -/
  | skipped {kind : SpanKind} {span rest : Text} {ps : List Piece} (hwhole : Whole kind span)
      (hskip : IsSkipped kind span) (next : Splits rest ps) :
      Splits (span ++ rest) (.verbatim span :: ps)
  /-- An expression or a statement. -/
  | span {kind : SpanKind} {inside rest : Text} {ps : List Piece}
      (hinside : Inside (standard.stop kind) 0 inside)
      (hnot : ¬IsSkipped kind (enclosed kind inside)) (next : Splits rest ps) :
      Splits (enclosed kind inside ++ rest) (.span kind (enclosed kind inside) :: ps)

/-- What is in front of the rest of a text when a whole span begins it. -/
lemma pieces_whole {kind : SpanKind} {span : Text} (hwhole : Whole kind span) (count : Nat)
    (rest : Text) :
    pieces standard count (span ++ rest) =
      match pieces standard (count + span.length) rest with
      | .error f => .error f
      | .ok more =>
        .ok ((if IsSkipped kind span then .verbatim span else .span kind span) :: more) := by
  have hkind := hwhole.kindAt?_eq rest
  have hlength := hwhole.length_eq rest
  have hname := hwhole.statementName_eq rest
  cases span with
  | nil =>
    -- a span is not empty: it begins with its opening delimiter
    have hbegins := Span.kindAt?_eq_some_iff.mp (hwhole.kindAt?_eq [])
    simp only [List.append_nil, List.prefix_nil] at hbegins
    cases kind <;> cases hbegins
  | cons c span =>
    rw [List.cons_append] at hkind hlength hname ⊢
    rw [pieces]
    simp only [hkind, hlength, List.length_cons, List.drop_left, List.take_left]
    have hskip : (kind = .comment || (kind = .statement &&
        Span.statementName standard (c :: (span ++ rest)) = "raw")) = true ↔
        IsSkipped kind (c :: span) := by
      simp only [Bool.or_eq_true, Bool.and_eq_true, decide_eq_true_eq, IsSkipped]
      exact or_congr_right (and_congr_right fun hstatement => by rw [hname hstatement])
    cases pieces standard (count + (span.length + 1)) rest with
    | error f => rfl
    | ok more =>
      by_cases h : IsSkipped kind (c :: span)
      · simp only [if_pos (hskip.mpr h), if_pos h]
      · simp only [if_neg (mt hskip.mp h), if_neg h]

/-- The pieces of a text are what it consists of. -/
theorem pieces_eq_ok_iff {count : Nat} {text : Text} {ps : List Piece} :
    pieces standard count text = .ok ps ↔ Splits text ps := by
  constructor
  · intro h
    induction hlength : text.length using Nat.strongRecOn generalizing text count ps with
    | ind length ih =>
    subst hlength
    cases text with
    | nil =>
      rw [pieces] at h
      cases h
      exact .nil
    | cons c rest =>
      cases hkind : Span.kindAt? standard (c :: rest) with
      | none =>
        rw [pieces] at h
        simp only [hkind] at h
        split at h
        · cases h
        rename_i more hmore
        cases h
        exact .character hkind (ih _ (by simp) hmore rfl)
      | some kind =>
        cases hlength : Span.length standard false (c :: rest) with
        | error f =>
          rw [pieces] at h
          simp only [hkind, hlength] at h
          cases h
        | ok n =>
          obtain ⟨span, behind, htext, hspan, hwhole, hinside⟩ := Span.whole_of_length hkind hlength
          rw [htext] at ih h ⊢
          rw [pieces_whole hwhole] at h
          split at h
          · cases h
          rename_i more hmore
          cases h
          have hpos : 0 < span.length := by
            have hbegins := Span.kindAt?_eq_some_iff.mp (hwhole.kindAt?_eq [])
            have hle := hbegins.length_le
            rw [Span.length_start, List.append_nil] at hle
            omega
          have hnext := ih _ (by simp [hpos]) hmore rfl
          split
          · rename_i hskip
            exact .skipped hwhole hskip hnext
          · rename_i hskip
            obtain hskip' | ⟨inside, rfl, hinside⟩ := hinside
            · exact absurd hskip' hskip
            · exact .span hinside hskip hnext
  · intro h
    induction h generalizing count with
    | nil => rw [pieces]
    | character hkind _ ih =>
      rw [pieces]
      simp only [hkind, ih]
    | skipped hwhole hskip _ ih =>
      rw [pieces_whole hwhole, ih, if_pos hskip]
    | span hinside hnot _ ih =>
      rw [pieces_whole (Span.whole_enclosed hinside hnot), ih, if_neg hnot]

/-! ### The parts of a span -/

lemma eq_of_isControlSign {c : Char} (h : Span.isControlSign c = true) : c = '-' ∨ c = '+' := by
  simpa [Span.isControlSign] using h

/-- Control signs in front of a body and behind it: there is one wherever one can be. -/
structure Signed (front body back : Text) : Prop where
  front_eq : front = [] ∧ body.head?.any Span.isControlSign = false ∨
    ∃ c, Span.isControlSign c = true ∧ front = [c]
  back_eq : back = [] ∧ body.getLast?.any Span.isControlSign = false ∨
    ∃ c, Span.isControlSign c = true ∧ back = [c]
  /-- The sign of an inside with nothing else stands in front. -/
  back_nil : front = [] → body = [] → back = []

lemma exists_signed (inside : Text) :
    ∃ front body back, inside = front ++ (body ++ back) ∧ Signed front body back := by
  -- the sign in front is taken off first
  obtain ⟨front, more, rfl, hfront⟩ : ∃ front more, inside = front ++ more ∧
      (front = [] ∧ more.head?.any Span.isControlSign = false ∨
        ∃ c, Span.isControlSign c = true ∧ front = [c]) := by
    cases inside with
    | nil => exact ⟨[], [], rfl, .inl ⟨rfl, rfl⟩⟩
    | cons c rest =>
      by_cases hc : Span.isControlSign c = true
      · exact ⟨[c], rest, rfl, .inr ⟨c, hc, rfl⟩⟩
      · exact ⟨[], c :: rest, rfl, .inl ⟨rfl, by simpa using hc⟩⟩
  cases more.eq_nil_or_concat with
  | inl hnil =>
    subst hnil
    exact ⟨front, [], [], rfl, hfront.imp (fun h => ⟨h.1, rfl⟩) id, .inl ⟨rfl, rfl⟩, fun _ _ => rfl⟩
  | inr hconcat =>
    obtain ⟨body, c, rfl⟩ := hconcat
    rw [List.concat_eq_append] at *
    by_cases hc : Span.isControlSign c = true
    · refine ⟨front, body, [c], rfl, ?_, .inr ⟨c, hc, rfl⟩, ?_⟩
      · refine hfront.imp (fun h => ⟨h.1, ?_⟩) id
        cases body with
        | nil => rfl
        | cons x body => exact h.2
      · rintro rfl rfl
        obtain ⟨-, h⟩ | ⟨x, -, h⟩ := hfront
        · simp [hc] at h
        · cases h
    · exact ⟨front, body ++ [c], [], by simp, hfront, .inl ⟨rfl, by simpa using hc⟩, fun _ _ => rfl⟩

/-- The sign behind a body is the last character that is left when the sign in front is taken off. -/
lemma parts_behind {body back : Text} (hback : back = [] ∧ body.getLast?.any Span.isControlSign = false ∨
    ∃ c, Span.isControlSign c = true ∧ back = [c]) (opening stop : Text) :
    (match (body ++ back).getLast? with
      | some c => if Span.isControlSign c then
          (⟨opening, (body ++ back).dropLast, c :: stop⟩ : Span.Parts)
        else ⟨opening, body ++ back, stop⟩
      | none => ⟨opening, body ++ back, stop⟩) = ⟨opening, body, back ++ stop⟩ := by
  obtain ⟨rfl, hlast⟩ | ⟨c, hc, rfl⟩ := hback
  · rw [List.append_nil]
    split
    · rename_i c hc
      rw [hc, Option.any_some] at hlast
      simp [hlast]
    · rfl
  · simp [hc]

/-- A span taken apart gives its delimiters, with the control signs, and the body. -/
lemma split_enclosed (kind : SpanKind) {front body back : Text} (h : Signed front body back) :
    Span.split standard kind (enclosed kind (front ++ (body ++ back))) =
      ⟨standard.start kind ++ front, body, back ++ standard.stop kind⟩ := by
  have hstart := Span.length_start kind
  have hstop : (standard.stop kind).length = 2 := by cases kind <;> rfl
  generalize hinside : front ++ (body ++ back) = inside
  have hopening : (enclosed kind inside).take 2 = standard.start kind := by
    rw [enclosed, List.take_left' hstart]
  have hclosing : (enclosed kind inside).drop (inside.length + 2) = standard.stop kind := by
    rw [enclosed, ← List.append_assoc, List.drop_left' (by simp [hstart]; omega)]
  have hmiddle : ((enclosed kind inside).take (inside.length + 2)).drop 2 = inside := by
    rw [enclosed, ← List.append_assoc, List.take_left' (by simp [hstart]; omega),
      List.drop_left' hstart]
  have hlast : ((enclosed kind inside).length : Int) - (standard.stop kind).length =
      ((inside.length + 2 : Nat) : Int) := by
    rw [Span.length_enclosed, hstop]
    omega
  have hclamp : ∀ n : Nat, Text.clampBound (enclosed kind inside).length n =
      min n (inside.length + 4) := by
    intro n
    rw [Span.length_enclosed, Text.clampBound, if_neg (by omega), Int.toNat_natCast]
  rw [Span.split]
  simp only [hstart, hlast, Text.sliceFrom, Text.slice, hclamp]
  rw [Nat.min_eq_left (by omega), Nat.min_eq_left (by omega), hopening, hclosing, hmiddle]
  clear hopening hclosing hmiddle hlast hclamp
  subst hinside
  obtain ⟨hfront, hback, hnil⟩ := h
  obtain ⟨rfl, hhead⟩ | ⟨c, hc, rfl⟩ := hfront
  · cases body with
    | nil =>
      obtain rfl : back = [] := hnil rfl rfl
      simp
    | cons x body =>
      have hx : Span.isControlSign x = false := by simpa using hhead
      simp only [List.nil_append, List.cons_append, hx, Bool.false_eq_true, if_false,
        List.append_nil]
      exact parts_behind hback _ _
  · simp only [List.cons_append, List.nil_append, hc, if_true]
    exact parts_behind hback _ _

end ComponentTags
