/-
# What pages put out

What a page puts out depends on what names mean outside of its loop only (`Page.outcome`).  The page as it stands
puts that out (`Page.putsOut_inline`), and so does the page with its content between the tags of a transparent
component (`Page.putsOut_hoisted`): the macro that holds the content is the only further variable, and no variable
of a content has its name.
-/
import ComponentTags.Proofs.Hoisting.Calls

namespace ComponentTags.Hoisting

open Template

variable {s : Setting} {call : Caller} {st : Store} {place : Place} {sc : Scene} {components : Components language} {fuel : Nat}
  {given : Table Text Value} {meaning meaning' : Text → Value} {statements : List Statement} {b : Box}

/-! ### Outcomes -/

/-- What names mean in a round of a loop, from what they mean outside of it. -/
def roundMeaning (target : Text) (meaning : Text → Value) (kept : List Value) (v : Value) (i : Nat) (n : Text) : Value :=
  if target = n then v else if loopName = n then .loop i kept else meaning n

lemma meaningIn_round (sc : Scene) (target : Text) (kept : List Value) (v : Value) (i : Nat) :
    meaningIn s (sc.inside (roundCells target kept v i)) = roundMeaning target (meaningIn s sc) kept v i := by
  funext n
  unfold meaningIn Scene.value? Scene.inside roundMeaning roundCells
  rw [List.findSome?_cons, Table.get?, Table.get?, Table.get?]
  split_ifs <;> rfl

namespace Page

/-- What a round puts out, from what names mean in it. -/
def round (p : Page) (s : Setting) (meaning : Text → Value) : Except Failure Text :=
  joined (p.front.outcomes s meaning ++ p.content.outcomes s meaning ++ p.back.outcomes s meaning)

/-- What a page puts out, from what names mean outside of its loop. -/
def outcome (p : Page) (s : Setting) (meaning : Text → Value) : Except Failure Text :=
  (meaning p.items.text).items >>= fun kept =>
    joined (kept.zipIdx.map fun x => p.round s (roundMeaning p.target.text meaning kept x.1 x.2))

end Page

/-! ### Names that contents do not have -/

lemma Content.outcomes_congr (c : Content) (h : ∀ x : Variable, meaning x.text = meaning' x.text) :
    c.outcomes s meaning = c.outcomes s meaning' := by
  refine List.map_congr_left fun part _ => ?_
  cases part with
  | text t plain => rfl
  | path x => rw [Part.outcome, Part.outcome, Path.value, Path.value, h]

namespace Page

lemma round_congr (p : Page) (h : ∀ x : Variable, meaning x.text = meaning' x.text) :
    p.round s meaning = p.round s meaning' := by
  rw [round, round, p.front.outcomes_congr h, p.content.outcomes_congr h, p.back.outcomes_congr h]

/-- Only what variables mean makes a difference to a page. -/
lemma outcome_congr (p : Page) (h : ∀ x : Variable, meaning x.text = meaning' x.text) :
    p.outcome s meaning = p.outcome s meaning' := by
  have hround (kept : List Value) (x : Value × Nat) :
      p.round s (roundMeaning p.target.text meaning kept x.1 x.2) =
        p.round s (roundMeaning p.target.text meaning' kept x.1 x.2) :=
    p.round_congr fun y => by rw [roundMeaning, roundMeaning, h]
  rw [outcome, outcome, h]
  simp only [hround]

end Page

/-- The macro of a content has no name of a variable. -/
lemma blockName_ne (b : Box) (x : Variable) : blockName b.text 1 ≠ x.text := by
  intro h
  have hreserved : isReserved x.text = true := by
    rw [← h, isReserved, blockName, List.append_assoc]
    exact List.isPrefixOf_iff_prefix.mpr (List.prefix_append _ _)
  exact Bool.false_ne_true (x.not_isReserved.symm.trans hreserved)

namespace Page

/-! ### The page as it stands -/

/-- The statement of a loop. -/
lemma means_loop {p : Page} {inner : List Chunk} {statement : Statement} (h : (p.loop inner).Means statement) :
    ∃ line, statement = .loop (.name p.target.text line) (.name p.items.text) []
      (chunkStatements [] (p.front.opened ++ inner ++ p.back.opened)) [] := h

/-- A loop puts out the outcome of its page if what stands in the place of the content comes to the content. -/
lemma putsOut_loop (p : Page) {inner : List Chunk} {statement : Statement} (hmeans : (p.loop inner).Means statement)
    (hshows : st.Shows place sc) (hplace : place.IsRooted)
    (hinner : ∀ kept v i st₁ place₁, st.GoesOn st₁ → place₁.IsRooted →
      st₁.Shows place₁ (sc.inside (roundCells p.target.text kept v i)) →
      ∃ outs, List.Forall₂ (Chunk.ComesTo s call place₁ st₁) inner outs ∧
        joined outs = joined (p.content.outcomes s (roundMeaning p.target.text (meaningIn s sc) kept v i))) :
    st.PutsOut (statement.exec s call place) (p.outcome s (meaningIn s sc)) := by
  obtain ⟨line, rfl⟩ := means_loop hmeans
  refine Template.putsOut_loop (fun kept v i => p.round s (roundMeaning p.target.text (meaningIn s sc) kept v i))
    hshows hplace p.isTarget.ne_loop (eval_name hshows) fun kept v i st₁ place₁ hst hroot hround => ?_
  obtain ⟨outs, hcomes, houts⟩ := hinner kept v i st₁ place₁ hst hroot hround
  have hall := putsOut_chunks (List.rel_append (List.rel_append (p.front.comesTo_opened (s := s) hround) hcomes)
    (p.back.comesTo_opened hround))
  rw [joined_append, joined_append, houts, ← joined_append, ← joined_append,
    meaningIn_round] at hall
  exact hall

/-- A loop sets nothing outside of itself. -/
lemma entered_loop {p : Page} {inner : List Chunk} {statement : Statement} (h : (p.loop inner).Means statement) :
    Scene.entered ⟨[], given⟩ s (templateNames [statement]) [] = [] := by
  obtain ⟨line, rfl⟩ := means_loop h
  rfl

/-- A macro in front of a loop is a variable without a value at first. -/
lemma entered_define {p : Page} {inner : List Chunk} {statement : Statement} {name : Text} {parameters : List Parameter}
    {body : List Statement} {line : Nat} (h : (p.loop inner).Means statement) :
    Scene.entered ⟨[], given⟩ s (templateNames [.define name parameters body line, statement]) [] = [(name, none)] := by
  obtain ⟨line, rfl⟩ := means_loop h
  rfl

lemma meaningIn_nil : meaningIn s ⟨[], given⟩ = meaningIn s ⟨[[]], given⟩ := rfl

/-- The page as it stands puts out its outcome. -/
theorem putsOut_inline (p : Page) (hmeans : List.Forall₂ Construct.Means [p.loop p.content.opened] statements) :
    st.PutsOut (execTemplate s call statements given) (p.outcome s (meaningIn s ⟨[], given⟩)) := by
  obtain ⟨statement, _, hstatement, hnil, rfl⟩ := List.forall₂_cons_left_iff.mp hmeans
  obtain rfl := List.forall₂_nil_left_iff.mp hnil
  refine putsOut_execTemplate fun st₁ place₁ _ hplace hshows => ?_
  rw [entered_loop hstatement] at hshows
  rw [execAll, execAll, meaningIn_nil, ← together_nil_right (p.outcome _ _)]
  refine Store.PutsOut.bind (p.putsOut_loop hstatement hshows hplace fun kept v i st₂ place₂ _ _ hround => ?_) fun _ _ => .pure
  exact ⟨_, p.content.comesTo_opened hround, by rw [meaningIn_round]⟩

/-! ### The page with tags -/

/-- What names mean beside the macro of a content. -/
lemma meaningIn_beside (given : Table Text Value) {n name : Text} {v : Option Value} (hn : name ≠ n) :
    meaningIn s ⟨[[(name, v)]], given⟩ n = meaningIn s ⟨[], given⟩ n := by
  unfold meaningIn Scene.value?
  rw [List.findSome?_cons, Table.get?, if_neg hn]
  rfl

lemma blockName_ne_of_getLast? {n : Text} (hn : n.getLast? ≠ some '1') : blockName b.text 1 ≠ n := by
  rintro rfl
  refine hn ?_
  rw [blockName, List.getLast?_append]
  rfl

lemma roundMeaning_of_isReserved {n : Text} {kept : List Value} {v : Value} {i : Nat} (x : Variable)
    (hn : isReserved n = true) : roundMeaning x.text meaning kept v i n = meaning n := by
  have htarget : x.text ≠ n := fun h => Bool.false_ne_true (x.not_isReserved.symm.trans (h ▸ hn))
  have hloop : loopName ≠ n := fun h => Bool.false_ne_true ((by decide : isReserved loopName = false).symm.trans (h ▸ hn))
  rw [roundMeaning, if_neg htarget, if_neg hloop]

/-- A loop with a call for a content puts out what the page puts out. -/
lemma putsOut_calls (p : Page) {r : Registration language} {statement : Statement} (hr : IsTransparent r)
    (hcomponents : components.get? b.text = some r) (hshows : st.Shows place sc) (hplace : place.IsRooted)
    (hrender : meaningIn s sc renderFunction = .callable .renderer)
    (hscope : meaningIn s sc scopeFunction = .callable .scopeMaker)
    (hholds : writeChunks p.content.opened ≠ [] → Holds st sc (blockName b.text 1) p.content)
    (hmeans : (p.loop [.value (p.content.call b)]).Means statement) :
    st.PutsOut (statement.exec s (callWithin components s (fuel + 2)) place) (p.outcome s (meaningIn s sc)) := by
  refine p.putsOut_loop hmeans hshows hplace fun kept v i st₁ place₁ hst hroot hround => ?_
  have hmeaning := meaningIn_round (s := s) sc p.target.text kept v i
  have hreserved {n : Text} (hn : isReserved n = true) :
      meaningIn s (sc.inside (roundCells p.target.text kept v i)) n = meaningIn s sc n := by
    rw [hmeaning, roundMeaning_of_isReserved p.target hn]
  have hcall (st₂ : Store) (hst₂ : st₁.GoesOn st₂) :
      st₂.Gives ((p.content.call b).expr.eval s (callWithin components s (fuel + 2)) place₁)
        ((joined (p.content.outcomes s (meaningIn s (sc.inside (roundCells p.target.text kept v i))))).map .markup) :=
    gives_call hr hcomponents (hround.goesOn hst₂) hroot ((hreserved (by decide)).trans hrender)
      ((hreserved (by decide)).trans hscope) fun hfull => (hholds hfull).inside (hst.trans hst₂)
  rw [hmeaning] at hcall
  refine ⟨[joined (p.content.outcomes s (roundMeaning p.target.text (meaningIn s sc) kept v i))],
    .cons ⟨_, hcall, ?_⟩ .nil, together_nil_right _⟩
  cases joined (p.content.outcomes s (roundMeaning p.target.text (meaningIn s sc) kept v i)) with
  | error f => rfl
  | ok t => exact shown_markup.symm

/-- With the tags of a transparent component around its content, the page puts out its outcome too. -/
theorem putsOut_hoisted (p : Page) {r : Registration language} (hr : IsTransparent r)
    (hcomponents : components.get? b.text = some r)
    (hrender : meaningIn s ⟨[], given⟩ renderFunction = .callable .renderer)
    (hscope : meaningIn s ⟨[], given⟩ scopeFunction = .callable .scopeMaker)
    (hmeans : List.Forall₂ Construct.Means (p.content.macros b ++ [p.loop [.value (p.content.call b)]]) statements) :
    st.PutsOut (execTemplate s (callWithin components s (fuel + 2)) statements given)
      (p.outcome s (meaningIn s ⟨[], given⟩)) := by
  unfold Content.macros at hmeans
  split at hmeans
  · next hempty =>
    obtain ⟨statement, _, hstatement, hnil, rfl⟩ := List.forall₂_cons_left_iff.mp hmeans
    obtain rfl := List.forall₂_nil_left_iff.mp hnil
    refine putsOut_execTemplate fun st₁ place₁ _ hplace hshows => ?_
    rw [entered_loop hstatement] at hshows
    rw [execAll, execAll, meaningIn_nil, ← together_nil_right (p.outcome _ _)]
    refine Store.PutsOut.bind (p.putsOut_calls hr hcomponents hshows hplace hrender hscope ?_ hstatement) fun _ _ => .pure
    exact fun hfull => absurd hempty hfull
  · obtain ⟨definition, _, hdefinition, hrest, rfl⟩ := List.forall₂_cons_left_iff.mp hmeans
    obtain ⟨statement, _, hstatement, hnil, rfl⟩ := List.forall₂_cons_left_iff.mp hrest
    obtain rfl := List.forall₂_nil_left_iff.mp hnil
    obtain ⟨line, rfl⟩ := hdefinition
    refine putsOut_execTemplate_define fun number st₁ place₁ _ hplace hm hshows => ?_
    rw [entered_define hstatement, Table.set, if_pos rfl] at hshows
    have hbeside {n : Text} (hn : n.getLast? ≠ some '1') := meaningIn_beside (s := s) given
      (v := some (.callable (.macroCall number (blockName b.text 1)))) (blockName_ne_of_getLast? (b := b) hn)
    rw [execAll, execAll, ← p.outcome_congr fun x => meaningIn_beside given (blockName_ne b x), ← together_nil_right (p.outcome _ _)]
    refine Store.PutsOut.bind (p.putsOut_calls hr hcomponents hshows hplace ((hbeside (by decide)).trans hrender)
      ((hbeside (by decide)).trans hscope) (fun _ => ?_) hstatement) fun _ _ => .pure
    exact ⟨number, _, place₁, _, rfl, if_pos rfl, hm, hshows⟩

end Page

end ComponentTags.Hoisting
