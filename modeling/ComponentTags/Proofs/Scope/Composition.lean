/-
# Closing content twice

Content is closed over the variables that it takes from around it once for each component that it
stands in, with other names bound each time.  Closing it where more names are bound and then where
fewer are is the same as closing it once where the fewer are bound (`captureNodes_captureNodes`): the
first time the names that are bound only there are left alone, and the second time exactly those are
captured.  In particular nothing happens when content is closed a second time.

The proof follows the content: a span whose variables are replaced is a span again with the same tokens
but for the look-ups, so the text falls into the same pieces, and the scope behind a piece does not
change.  The two scopes that are compared differ by the names that are bound in addition, and that
stays so behind every statement (`Scope.Adds`).
-/
import ComponentTags.Proofs.Names
import ComponentTags.Proofs.Scope.Closed

namespace ComponentTags

open Delimiters (standard)
open ComponentTags.Span (enclosed)

variable {names : List Text} {marked : List (Token × Bool)}

/-! ### Scopes with additional names -/

/-- A scope has some names in addition to those of another one, outside all blocks. -/
structure Scope.Adds (names : List Text) (t s : Scope) : Prop where
  frames : s.frames = t.frames
  base : ∀ n, n ∈ s.base ↔ n ∈ t.base ∨ n ∈ names

namespace Scope.Adds

variable {t s : Scope}

lemma mem_names (h : Adds names t s) (n : Text) : n ∈ s.names ↔ n ∈ t.names ∨ n ∈ names := by
  simp only [Scope.names, List.mem_append, h.frames, h.base, or_assoc]

lemma contains_names (h : Adds names t s) (n : Text) :
    s.names.contains n = (t.names.contains n || names.contains n) := by
  rw [Bool.eq_iff_iff]
  simp only [List.contains_iff_mem, Bool.or_eq_true, h.mem_names]

lemma bind (h : Adds names t s) (bound : List Text) : Adds names (t.bind bound) (s.bind bound) := by
  unfold Scope.bind
  rw [h.frames]
  cases t.frames with
  | nil =>
    refine ⟨rfl, fun n => ?_⟩
    simp only [List.mem_append, h.base]
    exact or_right_comm
  | cons f rest => exact ⟨rfl, h.base⟩

lemma push (h : Adds names t s) (closer : Text) (bound : List Text) :
    Adds names (t.push closer bound) (s.push closer bound) :=
  ⟨by simp only [Scope.push, h.frames], h.base⟩

lemma pop (h : Adds names t s) (closer : Text) : Adds names (t.pop closer) (s.pop closer) := by
  unfold Scope.pop
  rw [h.frames]
  cases t.frames with
  | nil => exact h
  | cons f rest =>
    simp only
    split
    · exact ⟨rfl, h.base⟩
    · exact h

/-- A statement binds the same names in both scopes. -/
lemma afterStatement (h : Adds names t s) (ts : List Token) :
    Adds names (t.afterStatement ts) (s.afterStatement ts) := by
  unfold Scope.afterStatement
  split
  · exact h
  · rename_i tag rest _
    have hmacro : Adds names
        (if tag = "macro" then t.bind (namesOf (rest.take 1)) else t)
        (if tag = "macro" then s.bind (namesOf (rest.take 1)) else s) := by
      split
      · exact h.bind _
      · exact h
    simp only
    split
    · exact hmacro.push _ _
    · split
      · exact hmacro.pop _
      · exact hmacro.bind _

/-- The children of a component see all names as bound outside all blocks. -/
lemma children (h : Adds names t s) : Adds names ⟨t.names, []⟩ ⟨s.names, []⟩ :=
  ⟨rfl, h.mem_names⟩

end Scope.Adds

/-! ### Replaced and captured names -/

lemma replacedText_flatMap_settled (names : List Text) (marked : List (Token × Bool)) :
    replacedText (marked.flatMap (settled names)) = replacedText marked := by
  have hlookup : ∀ ts : List Token, replacedText (ts.map (·, false)) = ts.flatMap Token.text := by
    intro ts
    rw [replacedText_eq, flatMap_expanded_kept]
  induction marked with
  | nil => rfl
  | cons m rest ih =>
    obtain ⟨t, free⟩ := m
    rw [List.flatMap_cons, replacedText, List.flatMap_append, replacedText, List.flatMap_cons]
    change replacedText _ ++ replacedText _ = _ ++ replacedText _
    rw [ih]
    congr 1
    unfold settled
    split
    · rename_i hmark
      obtain ⟨rfl, -⟩ := Bool.and_eq_true_iff.mp hmark
      rw [hlookup, lookupTokens_join]
      rfl
    · simp [replacedText]

/-- What is captured where some names are bound in addition is what is captured without them. -/
lemma capturedNames_map_without (names : List Text) (marked : List (Token × Bool)) :
    capturedNames (marked.map (without names)) =
      (capturedNames marked).filter fun n => !names.contains n := by
  rw [capturedNames, capturedNames, List.filter_map, List.filter_map, List.map_map, List.filter_filter]
  refine congrArg₂ _ rfl (List.filter_congr fun m _ => ?_)
  simp only [Function.comp, without]
  cases m.2 <;> simp [Bool.and_comm]

/-- What is captured behind the replacement are the names that were left alone. -/
lemma capturedNames_flatMap_settled (names : List Text) (marked : List (Token × Bool)) :
    capturedNames (marked.flatMap (settled names)) =
      (capturedNames marked).filter fun n => names.contains n := by
  induction marked with
  | nil => rfl
  | cons m rest ih =>
    obtain ⟨t, free⟩ := m
    rw [List.flatMap_cons, capturedNames_append, ih, ← List.singleton_append,
      capturedNames_append, List.filter_append]
    congr 1
    unfold settled
    split
    · rename_i hmark
      obtain ⟨rfl, hno⟩ := Bool.and_eq_true_iff.mp hmark
      rw [capturedNames_kept]
      simp only [Bool.not_eq_true'] at hno
      by_cases hcaptured : isCaptured t.text = true
      · simp only [capturedNames, List.filter_cons, hcaptured, Bool.and_self, if_true,
          List.filter_nil, List.map_cons, List.map_nil, hno, Bool.false_eq_true, if_false]
      · simp [capturedNames, hcaptured]
    · rename_i hmark
      by_cases hcaptured : (free && isCaptured t.text) = true
      · have hmem : names.contains t.text = true := by
          simp only [without] at hmark
          rw [(Bool.and_eq_true_iff.mp hcaptured).1] at hmark
          simpa using hmark
        simp only [capturedNames, List.filter_cons, hcaptured, if_true, List.filter_nil,
          List.map_cons, List.map_nil, hmem]
      · simp [capturedNames, hcaptured]

/-! ### Texts -/

/-- The marks of a span where some names are bound in addition. -/
lemma markSpan_without {t s : Scope} (h : Scope.Adds names t s) (kind : SpanKind) (body : Text) :
    markSpan s kind body = (markSpan t kind body).map (without names) := by
  unfold markSpan
  split
  · exact markStatement_without h.contains_names _
  · exact markExpression_without h.contains_names _

/-- Closing a text with some names bound in addition gives `inner`, without them `outer`, and closing
what `inner` is without them gives `again`. -/
structure Composes (names : List Text) (inner outer again : Captured) : Prop where
  text : again.text = outer.text
  scope : again.scope = outer.scope
  captured_inner : inner.captured = outer.captured.filter fun n => !names.contains n
  captured_again : again.captured = outer.captured.filter fun n => names.contains n
  adds : Scope.Adds names outer.scope inner.scope

variable {t s : Scope}

/-- Closing the pieces of a text once more. -/
lemma capturePieces_composes {text : Text} {ps : List Piece} (h : Splits text ps)
    (hs : Scope.Adds names t s) :
    Composes names (capturePieces standard s ps) (capturePieces standard t ps)
      (capturePieces standard t (closedPieces s ps)) := by
  induction h generalizing t s with
  | nil => exact ⟨rfl, rfl, rfl, rfl, hs⟩
  | @character c rest ps _ _ ih =>
    have hcomposes := ih hs
    exact ⟨congrArg ([c] ++ ·) hcomposes.text, hcomposes.scope, hcomposes.captured_inner,
      hcomposes.captured_again, hcomposes.adds⟩
  | @skipped kind span rest ps _ _ _ ih =>
    have hcomposes := ih hs
    exact ⟨congrArg (span ++ ·) hcomposes.text, hcomposes.scope, hcomposes.captured_inner,
      hcomposes.captured_again, hcomposes.adds⟩
  | @span kind inside rest ps hinside hnot _ ih =>
    obtain ⟨front, body, back, rfl, hsigned⟩ := exists_signed inside
    -- the scopes behind the span still differ by the names
    have hbehind : Scope.Adds names (scopeBehind t kind body) (scopeBehind s kind body) := by
      unfold scopeBehind
      split
      · exact hs.afterStatement _
      · exact hs
    have hcomposes := ih hbehind
    obtain ⟨-, hsigned', -⟩ := span_replaced hinside hsigned hnot t names rfl
    simp only [capturePieces, closedPieces, capturePiece_enclosed _ hsigned,
      markSpan_without hs, capturePiece_enclosed _ hsigned', markSpan_replaced,
      scopeBehind_replaced, replacedText_flatMap_settled, capturedNames_map_without,
      capturedNames_flatMap_settled]
    exact ⟨congrArg (enclosed kind _ ++ ·) hcomposes.text, hcomposes.scope,
      by rw [hcomposes.captured_inner, List.filter_append],
      by rw [hcomposes.captured_again, List.filter_append], hcomposes.adds⟩

/-- Closing a text once more. -/
lemma captureIn_composes {text : Text} {inner : Captured} (hs : Scope.Adds names t s)
    (h : captureIn standard s text = .ok inner) :
    ∃ outer again, captureIn standard t text = .ok outer ∧
      captureIn standard t inner.text = .ok again ∧ Composes names inner outer again := by
  unfold captureIn at h ⊢
  cases hps : pieces standard 0 text with
  | error f =>
    rw [hps] at h
    cases h
  | ok ps =>
    rw [hps] at h
    cases h
    have hsplits := pieces_eq_ok_iff.mp hps
    refine ⟨_, _, rfl, ?_, capturePieces_composes hsplits hs⟩
    rw [pieces_eq_ok_iff.mpr (splits_closedPieces hsplits s)]

/-! ### Nodes -/

/-- Closing the values of attributes once more. -/
lemma captureAttributes_composes {bound bound' : List Text} {entries closed : Table Text Text}
    {captured : List Text} (hs : Scope.Adds names ⟨bound, []⟩ ⟨bound', []⟩)
    (h : captureAttributes standard bound' entries = .ok (closed, captured)) :
    ∃ outer all, captureAttributes standard bound entries = .ok (outer, all) ∧
      captureAttributes standard bound closed =
        .ok (outer, all.filter fun n => names.contains n) ∧
      captured = all.filter fun n => !names.contains n := by
  induction entries generalizing closed captured with
  | nil =>
    cases h
    exact ⟨[], [], rfl, rfl, rfl⟩
  | cons entry rest ih =>
    obtain ⟨key, value⟩ := entry
    rw [captureAttributes] at h
    split at h
    · cases h
    rename_i inner hinner
    split at h
    · cases h
    rename_i more inMore hmore
    cases h
    obtain ⟨outer, again, houter, hagain, hcomposes⟩ := captureIn_composes hs hinner
    obtain ⟨outerMore, allMore, houterMore, hagainMore, hcaptured⟩ := ih hmore
    refine ⟨(key, outer.text) :: outerMore, outer.captured ++ allMore, ?_, ?_, ?_⟩
    · simp only [captureAttributes, houter, houterMore]
    · simp only [captureAttributes, hagain, hagainMore, hcomposes.text, hcomposes.captured_again,
        List.filter_append]
    · rw [hcaptured, hcomposes.captured_inner, List.filter_append]

/-- Closing nodes once more. -/
lemma captureFrom_composes {nodes closed : List Node} {captured : List Text}
    (hs : Scope.Adds names t s) (h : captureFrom standard s nodes = .ok (closed, captured)) :
    ∃ outer all, captureFrom standard t nodes = .ok (outer, all) ∧
      captureFrom standard t closed = .ok (outer, all.filter fun n => names.contains n) ∧
      captured = all.filter fun n => !names.contains n := by
  fun_induction captureFrom standard s nodes generalizing t closed captured with
  | case1 =>
    cases h
    exact ⟨[], [], by rw [captureFrom], by rw [captureFrom, List.filter_nil], rfl⟩
  | case2 | case3 | case5 | case6 | case7 => cases h
  | case4 s content rest inner hinner nodes inRest hrest ih =>
    cases h
    obtain ⟨outer, again, houter, hagain, hcomposes⟩ := captureIn_composes hs hinner
    obtain ⟨outerRest, allRest, houterRest, hagainRest, hcaptured⟩ := ih hcomposes.adds hrest
    refine ⟨.raw outer.text :: outerRest, outer.captured ++ allRest, ?_, ?_, ?_⟩
    · simp only [captureFrom, houter, houterRest]
    · simp only [captureFrom, hagain, hcomposes.scope, hagainRest, hcomposes.text,
        hcomposes.captured_again, List.filter_append]
    · rw [hcaptured, hcomposes.captured_inner, List.filter_append]
  | case8 s tag attributes children selfClosing offset rest entries inAttributes hattributes inner
      inChildren hchildren nodes inRest hrest ihChildren ihRest =>
    cases h
    obtain ⟨outerAttributes, allAttributes, houterAttributes, hagainAttributes, hcaptured⟩ :=
      captureAttributes_composes hs.children hattributes
    obtain ⟨outerChildren, allChildren, houterChildren, hagainChildren, hcaptured'⟩ :=
      ihChildren hs.children hchildren
    obtain ⟨outerRest, allRest, houterRest, hagainRest, hcaptured''⟩ := ihRest hs hrest
    refine ⟨.component tag outerAttributes outerChildren selfClosing offset :: outerRest,
      allAttributes ++ allChildren ++ allRest, ?_, ?_, ?_⟩
    · simp only [captureFrom, houterAttributes, houterChildren, houterRest]
    · simp only [captureFrom, hagainAttributes, hagainChildren, hagainRest, List.filter_append]
    · rw [hcaptured, hcaptured', hcaptured'', List.filter_append, List.filter_append]

/-- Closing content where `more` names are bound and then where some of them are is closing it where
those are bound.  The first time the captured names are those that are not among `more`, the second
time those that are. -/
theorem captureNodes_captureNodes {nodes closed : List Node} {bound more captured : List Text}
    (hsub : ∀ n ∈ bound, n ∈ more) (h : captureNodes nodes more = .ok (closed, captured)) :
    ∃ outer all, captureNodes nodes bound = .ok (outer, all) ∧
      captureNodes closed bound = .ok (outer, all.filter (· ∈ more)) ∧
      captured = all.filter (· ∉ more) := by
  have hs : Scope.Adds more ⟨bound, []⟩ ⟨more, []⟩ :=
    ⟨rfl, fun n => ⟨.inr, fun hn => hn.elim (hsub n) id⟩⟩
  unfold captureNodes at h ⊢
  split at h
  · cases h
  rename_i hclosed
  cases h
  obtain ⟨outer, all, houter, hagain, rfl⟩ := captureFrom_composes hs hclosed
  have hfilter : ∀ l : List Text, l.filter (· ∉ more) = l.filter fun n => !more.contains n := fun l =>
    List.filter_congr fun n _ => by simp
  refine ⟨outer, all.eraseDups, by rw [houter], ?_, ?_⟩
  · simp only [hagain, eraseDups_filter, List.contains_eq_mem]
  · rw [hfilter, eraseDups_filter]

/-- A component in a loop, closed where its loop is in scope and then for the block around the
loop. -/
theorem captureNodes_captureNodes_loop :
    (∀ n ∈ [("a" : Text)], n ∈ [("a" : Text), "x"]) ∧
      captureNodes [.raw "\x7b\x7b x ~ y \x7d\x7d"] ["a", "x"] =
        .ok ([.raw "\x7b\x7b x ~ glam__ctx.locals[\"y\"] \x7d\x7d"], ["y"]) ∧
      ∃ outer all, captureNodes [.raw "\x7b\x7b x ~ y \x7d\x7d"] ["a"] = .ok (outer, all) ∧
        captureNodes [.raw "\x7b\x7b x ~ glam__ctx.locals[\"y\"] \x7d\x7d"] ["a"] =
          .ok (outer, all.filter (· ∈ [("a" : Text), "x"])) ∧
        [("y" : Text)] = all.filter (· ∉ [("a" : Text), "x"]) := by
  have hsub : ∀ n ∈ [("a" : Text)], n ∈ [("a" : Text), "x"] := by decide
  have hclosed : captureNodes [.raw "\x7b\x7b x ~ y \x7d\x7d"] ["a", "x"] =
      .ok ([.raw "\x7b\x7b x ~ glam__ctx.locals[\"y\"] \x7d\x7d"], ["y"]) := by
    have htext : captureIn standard ⟨["a", "x"], []⟩ "\x7b\x7b x ~ y \x7d\x7d" =
        .ok ⟨"\x7b\x7b x ~ glam__ctx.locals[\"y\"] \x7d\x7d", ["y"], ⟨["a", "x"], []⟩⟩ := by
      with_unfolding_all rfl
    simp only [captureNodes, captureFrom, htext]
    rfl
  exact ⟨hsub, hclosed, captureNodes_captureNodes hsub hclosed⟩

end ComponentTags
