/-
# Marks of a replaced span

Which variables of a span are free is decided by what stands around each token.  When some of the free
variables are replaced by look-ups, the tokens of the look-ups are not free, and every other token is
free as before (`markFree_replaced`): a look-up looks like a variable to the tokens next to it.  The
same holds for statements, since they bind the same names (`markStatement_replaced`).

Which of the free variables are replaced is said by a list of names: those are bound where the first
replacement is made, so it leaves them alone (`without`).
-/
import ComponentTags.Proofs.Scope.Bindings

namespace ComponentTags

/-! ### Marks that are taken away -/

/-- A marked token whose mark is taken away if it is one of some names. -/
def without (names : List Text) (m : Token × Bool) : Token × Bool :=
  (m.1, m.2 && !names.contains m.1.text)

/-- The marked tokens that stand for a marked token once it is replaced, unless it is one of some
names. -/
def settled (names : List Text) (m : Token × Bool) : List (Token × Bool) :=
  if (without names m).2 then (lookupTokens m.1.text).map (·, false) else [m]

variable {isFree isFree' : Region → Text → Bool} {names : List Text} {p p' : Passed}
  {regions regions' : List Region} {ts : List Token} {marked : List (Token × Bool)}

/-- The mark of a significant token in front of some others. -/
def markOf (isFree : Region → Text → Bool) (p : Passed) (region : Region) (t : Token)
    (rest : List Token) : Bool :=
  region ≠ .label && isVariable p t (rest.find? Token.isSignificant) && isFree region t.text

lemma markFree_significant {t : Token} (h : t.isSignificant = true) (rest : List Token) :
    markFree isFree p regions (t :: rest) =
      (t, markOf isFree p (regions.headD .outer) t rest) ::
        markFree isFree (p.after t) regions.tail rest := if_pos h

lemma markFree_blank {t : Token} (h : ¬t.isSignificant = true) (rest : List Token) :
    markFree isFree p regions (t :: rest) = (t, false) :: markFree isFree p regions rest := if_neg h

lemma markFree_without (h : ∀ region n, isFree' region n = (isFree region n && !names.contains n))
    (p : Passed) (regions : List Region) (ts : List Token) :
    markFree isFree' p regions ts = (markFree isFree p regions ts).map (without names) := by
  induction ts generalizing p regions with
  | nil => rfl
  | cons t rest ih =>
    by_cases ht : t.isSignificant = true
    · simp only [markFree_significant ht, List.map_cons, ih, without, markOf, h, Bool.and_assoc]
    · rw [markFree_blank ht, markFree_blank ht, ih]
      rfl

/-- Only free variables are marked. -/
lemma isVariable_of_mem_markFree {t : Token} (h : (t, true) ∈ markFree isFree p regions ts) :
    t.isName = true ∧ keywords.contains t.text = false ∧ isReserved t.text = false ∧
      ∃ region, isFree region t.text = true := by
  induction ts generalizing p regions with
  | nil => cases h
  | cons u rest ih =>
    rw [markFree] at h
    split at h
    · rcases List.mem_cons.mp h with heq | hmem
      · obtain ⟨rfl, hmark⟩ := Prod.mk.inj heq
        simp only [isVariable, Bool.and_eq_true, Bool.not_eq_true', eq_comm (a := true)] at hmark
        exact ⟨hmark.1.2.1.1.1.1, hmark.1.2.1.1.2, hmark.1.2.1.2, _, hmark.2⟩
      · exact ih hmem
    · rcases List.mem_cons.mp h with heq | hmem
      · cases heq
      · exact ih hmem

lemma variablesMarked_markFree : VariablesMarked (markFree isFree p regions ts) :=
  fun _ ht => ⟨(isVariable_of_mem_markFree ht).1, (isVariable_of_mem_markFree ht).2.1⟩

lemma VariablesMarked.without (h : VariablesMarked marked) (names : List Text) :
    VariablesMarked (marked.map (without names)) := by
  intro t ht
  obtain ⟨⟨u, free⟩, hmem, heq⟩ := List.mem_map.mp ht
  obtain ⟨rfl, hfree⟩ := Prod.mk.inj heq
  obtain ⟨rfl, -⟩ := Bool.and_eq_true_iff.mp hfree
  exact h u hmem

lemma map_fst_without (names : List Text) (marked : List (Token × Bool)) :
    (marked.map (ComponentTags.without names)).map Prod.fst = marked.map Prod.fst := by
  rw [List.map_map]
  rfl

/-- Nothing is taken away without names. -/
lemma map_without_nil (marked : List (Token × Bool)) :
    marked.map (ComponentTags.without []) = marked := by
  have hsame : ComponentTags.without [] = id := by
    funext m
    simp [ComponentTags.without]
  rw [hsame, List.map_id]

lemma VariablesMarked.filter (h : VariablesMarked marked) (q : Token × Bool → Bool) :
    VariablesMarked (marked.filter q) := fun t ht => h t ((List.mem_filter.mp ht).1)

/-- The marked tokens that are more than blanks. -/
def significantMarks (marked : List (Token × Bool)) : List (Token × Bool) :=
  marked.filter fun m => m.1.isSignificant

lemma significantMarks_significant {t : Token} (h : t.isSignificant = true) (free : Bool) :
    significantMarks ((t, free) :: marked) = (t, free) :: significantMarks marked :=
  List.filter_cons_of_pos h

lemma significantMarks_blank {t : Token} (h : ¬t.isSignificant = true) (free : Bool) :
    significantMarks ((t, free) :: marked) = significantMarks marked := List.filter_cons_of_neg h

/-- No label is marked. -/
lemma unlabelled_markFree (isFree : Region → Text → Bool) (p : Passed) (regions : List Region)
    (ts : List Token) : Unlabelled (significantMarks (markFree isFree p regions ts)) regions := by
  induction ts generalizing p regions with
  | nil => exact .nil
  | cons t rest ih =>
    by_cases ht : t.isSignificant = true
    · rw [markFree_significant ht, significantMarks_significant ht]
      refine .cons (fun hmark => ?_) (ih _ _)
      simp only [markOf, Bool.and_eq_true, decide_eq_true_eq] at hmark
      exact hmark.1.1
    · rw [markFree_blank ht, significantMarks_blank ht]
      exact ih p regions

/-! ### The walk over a span -/

/-- Two walks have passed tokens that mean the same for what follows. -/
structure Passed.Alike (p p' : Passed) : Prop where
  brackets : p'.brackets = p.brackets
  selector : p'.beforeSelector = p.beforeSelector
  isTest : p'.last.any (·.isNamed "is") = p.last.any (·.isNamed "is")

lemma Passed.Alike.after (h : p.Alike p') (t : Token) : (p.after t).Alike (p'.after t) := by
  refine ⟨?_, ?_, rfl⟩
  · simp only [Passed.after, h.brackets]
  · simp only [Passed.after, Passed.beforeSelector, h.isTest]

lemma Passed.Alike.isVariable (h : p.Alike p') (t : Token) {next next' : Option Token}
    (hnext : next'.any (·.isSign "=") = next.any (·.isSign "=")) :
    isVariable p' t next' = isVariable p t next := by
  simp only [ComponentTags.isVariable, h.selector, h.brackets, hnext]

/-- Significant tokens none of which is a variable, whatever follows. -/
inductive Quiet : Passed → List Token → Prop
  | nil {p : Passed} : Quiet p []
  | cons {p : Passed} {t : Token} {ts : List Token} (hsignificant : t.isSignificant = true)
      (hno : ∀ next, isVariable p t next = false) (hrest : Quiet (p.after t) ts) : Quiet p (t :: ts)

lemma Quiet.markFree_append (h : Quiet p ts) (regions : List Region) (rest : List Token) :
    markFree isFree p regions (ts ++ rest) =
      ts.map (·, false) ++ markFree isFree (ts.foldl Passed.after p) (regions.drop ts.length) rest := by
  induction h generalizing regions with
  | nil => rfl
  | @cons p t ts hsignificant hno _ ih =>
    simp only [List.cons_append, markFree, hsignificant, if_true, hno, Bool.and_false, Bool.false_and,
      ih, List.map_cons, List.foldl_cons, List.length_cons]
    rw [← List.drop_one, List.drop_drop, Nat.add_comm]

/-- No token of a look-up is a variable. -/
lemma quiet_lookupTokens (p : Passed) (name : Text) : Quiet p (lookupTokens name) := by
  have hcontext : ∀ (q : Passed) next, isVariable q ⟨.name, contextName⟩ next = false := by
    intro q next
    have hreserved : isReserved contextName = true := by decide
    simp only [isVariable, hreserved, Bool.not_true, Bool.and_false, Bool.false_and]
  have hother : ∀ (q : Passed) (kind : TokenKind) (text : Text) next, kind ≠ .name →
      isVariable q ⟨kind, text⟩ next = false := by
    intro q kind text next hkind
    simp [isVariable, Token.isName, hkind]
  have hattribute : ∀ (q : Passed) (u : Token) next,
      isVariable (q.after ⟨.sign, ['.']⟩) u next = false := by
    intro q u next
    have hselector : (q.after ⟨.sign, ['.']⟩).beforeSelector = true := rfl
    simp only [isVariable, hselector, Bool.not_true, Bool.and_false, Bool.false_and]
  have hpath : ∀ {name : Text} {ts : List Token},
      Quiet (((p.after ⟨.name, contextName⟩).after ⟨.sign, ['.']⟩).after ⟨.name, name⟩) ts →
      Quiet p (⟨.name, contextName⟩ :: ⟨.sign, ['.']⟩ :: ⟨.name, name⟩ :: ts) := fun h =>
    .cons rfl (hcontext _) (.cons rfl (fun next => hother _ _ _ next (by decide))
      (.cons rfl (hattribute _ _) h))
  unfold lookupTokens
  split
  · exact hpath .nil
  split
  · exact hpath .nil
  · exact hpath (.cons rfl (fun next => hother _ _ _ next (by decide))
      (.cons rfl (fun next => hother _ _ _ next (by decide))
        (.cons rfl (fun next => hother _ _ _ next (by decide)) .nil)))

/-- What follows a look-up is in the place of what follows a variable. -/
lemma Passed.Alike.after_lookup (h : p.Alike p') {t : Token} (hname : t.isName = true)
    (hkeyword : keywords.contains t.text = false) (name : Text) :
    (p.after t).Alike ((lookupTokens name).foldl Passed.after p') := by
  have hpoint : t.isSign "." = false := Token.isSign_of_isName hname
  have hbar : t.isSign "|" = false := Token.isSign_of_isName hname
  have his : t.isNamed "is" = false := Token.isNamed_of_not_keyword hkeyword (by decide)
  have hnot : t.isNamed "not" = false := Token.isNamed_of_not_keyword hkeyword (by decide)
  have hbrackets : (p.after t).brackets = p'.brackets := by
    simp only [Passed.after, Token.opens_of_isName hname, Token.closes_of_isName hname, h.brackets]
    rfl
  have hselector : (p.after t).beforeSelector = false := by
    simp only [Passed.after, Passed.beforeSelector, hpoint, hbar, his, hnot]
    rfl
  have htest : (p.after t).last.any (·.isNamed "is") = false := his
  refine ⟨?_, ?_, ?_⟩
  · rw [hbrackets]
    unfold lookupTokens
    split
    · rfl
    split <;> rfl
  · rw [hselector]
    unfold lookupTokens
    split
    · rfl
    split <;> rfl
  · rw [htest]
    unfold lookupTokens
    split
    · rfl
    split <;> rfl

/-- The first significant token is an equals sign before the replacement and behind it, or neither. -/
lemma find?_isSign_expanded (h : VariablesMarked marked) (sign : Text) :
    ((marked.flatMap expanded).find? Token.isSignificant).any (·.isSign sign) =
      ((marked.map Prod.fst).find? Token.isSignificant).any (·.isSign sign) := by
  induction marked with
  | nil => rfl
  | cons m rest ih =>
    obtain ⟨t, free⟩ := m
    cases free with
    | false =>
      simp only [List.flatMap_cons, expanded, List.cons_append, List.nil_append, List.map_cons,
        List.find?_cons]
      split
      · rfl
      · exact ih h.tail
    | true =>
      have hname := h.head.1
      have hkind : t.kind = .name := by simpa [Token.isName] using hname
      have hsignificant : t.isSignificant = true := by simp [Token.isSignificant, hkind]
      obtain ⟨us, hus⟩ := lookupTokens_cons t.text
      simp only [List.flatMap_cons, expanded, hus, List.cons_append, List.map_cons,
        List.find?_cons, hsignificant, Option.any_some, Token.isSign_of_isName hname]
      rfl

/-- The marks of a span in which the free variables but some names are replaced. -/
theorem markFree_replaced (halike : p.Alike p')
    (haligned : Aligned (significantMarks ((markFree isFree p regions ts).map (without names)))
      regions regions') :
    markFree isFree p' regions' (((markFree isFree p regions ts).map (without names)).flatMap expanded)
      = (markFree isFree p regions ts).flatMap (settled names) := by
  induction ts generalizing p p' regions regions' with
  | nil => rfl
  | cons t rest ih =>
    by_cases ht : t.isSignificant = true
    · rw [markFree_significant ht] at haligned ⊢
      rw [List.map_cons] at haligned
      simp only [List.map_cons, List.flatMap_cons]
      generalize hmark : markOf isFree p (regions.headD .outer) t rest = mark at haligned
      have hrest : VariablesMarked
          ((markFree isFree (p.after t) regions.tail rest).map (without names)) :=
        variablesMarked_markFree.without names
      by_cases hreplaced : (mark && !names.contains t.text) = true
      · -- a look-up, behind which everything is as it was behind the variable
        have hmem : (t, true) ∈ markFree isFree p regions (t :: rest) := by
          rw [markFree_significant ht, hmark, (Bool.and_eq_true_iff.mp hreplaced).1]
          exact List.mem_cons_self ..
        obtain ⟨hname, hkeyword, -⟩ := isVariable_of_mem_markFree hmem
        have hwithout : without names (t, mark) = (t, true) := by simp only [without, hreplaced]
        rw [hwithout, significantMarks_significant ht] at haligned
        rw [hwithout]
        cases haligned with
        | replaced next =>
          simp only [expanded, settled, hwithout, if_true]
          rw [(quiet_lookupTokens p' t.text).markFree_append,
            ih (halike.after_lookup hname hkeyword t.text) next]
      · have hwithout : without names (t, mark) = (t, false) := by simp only [without, hreplaced]
        rw [hwithout, significantMarks_significant ht] at haligned
        rw [hwithout]
        cases haligned with
        | kept hregion next =>
          simp only [expanded, settled, hwithout, Bool.false_eq_true, if_false, List.cons_append,
            List.nil_append]
          rw [markFree_significant ht, ih (halike.after t) next]
          have hnext := find?_isSign_expanded hrest "="
          rw [map_fst_without, markFree_tokens] at hnext
          rw [← hmark, markOf, markOf, ← hregion, halike.isVariable t hnext]
    · rw [markFree_blank ht] at haligned ⊢
      have hwithout : without names (t, false) = (t, false) := rfl
      rw [List.map_cons, hwithout, significantMarks_blank ht] at haligned
      simp only [List.map_cons, List.flatMap_cons, settled, hwithout, expanded, List.cons_append,
        List.nil_append, Bool.false_eq_true, if_false]
      rw [markFree_blank ht, ih halike haligned]

/-! ### Expressions and statements -/

variable {bound bound' : List Text}

/-- Names that are bound are not marked. -/
lemma markExpression_without (h : ∀ n, bound'.contains n = (bound.contains n || names.contains n))
    (ts : List Token) : markExpression bound' ts = (markExpression bound ts).map (without names) :=
  markFree_without (fun _ n => by rw [h, Bool.not_or]) _ _ _

/-- The marks of an expression in which the free variables but some names are replaced. -/
theorem markExpression_replaced (bound names : List Text) (ts : List Token) :
    markExpression bound (((markExpression bound ts).map (without names)).flatMap expanded) =
      (markExpression bound ts).flatMap (settled names) :=
  markFree_replaced ⟨rfl, rfl, rfl⟩ (aligned_nil _)

/-- Whether a variable in a region of a statement is free. -/
def freeIn (bound : List Text) (tag : Text) (rest : List Token) (region : Region) (name : Text) :
    Bool :=
  !(if binders.contains tag then bound ++ bindingsOf tag rest else bound).contains name &&
    !(region = .inner && (innerNames tag rest).contains name)

lemma markStatement_eq {tag : Text} {rest : List Token} (h : statementTag? ts = some (tag, rest)) :
    markStatement bound ts = markFree (freeIn bound tag rest) {} (.label :: regionsOf tag rest) ts := by
  rw [markStatement, h]
  rfl

/-- The names that a binder binds are not free in it. -/
lemma not_mem_bindingsOf_of_freeIn {tag name : Text} {rest : List Token} {region : Region}
    (hbinder : binders.contains tag = true) (h : freeIn bound tag rest region name = true) :
    name ∉ bindingsOf tag rest := by
  intro hmem
  rw [freeIn, if_pos hbinder] at h
  simp [hmem] at h

lemma freeIn_congr {tag : Text} {rest rest' : List Token}
    (hbindings : bindingsOf tag rest' = bindingsOf tag rest)
    (hinner : innerNames tag rest' = innerNames tag rest) :
    freeIn bound tag rest' = freeIn bound tag rest := by
  funext region name
  rw [freeIn, freeIn, hbindings, hinner]

/-- Names that are bound are not marked. -/
lemma markStatement_without (h : ∀ n, bound'.contains n = (bound.contains n || names.contains n))
    (ts : List Token) : markStatement bound' ts = (markStatement bound ts).map (without names) := by
  cases hstatement : statementTag? ts with
  | none =>
    rw [markStatement, markStatement, hstatement]
    exact markExpression_without h ts
  | some statement =>
    obtain ⟨tag, rest⟩ := statement
    rw [markStatement_eq hstatement, markStatement_eq hstatement]
    refine markFree_without (fun region n => ?_) _ _ _
    have hbound : ∀ bindings : List Text,
        (if binders.contains tag then bound' ++ bindings else bound').contains n =
          ((if binders.contains tag then bound ++ bindings else bound).contains n ||
            names.contains n) := by
      intro bindings
      split
      · simp only [List.contains_append, h, Bool.or_assoc, Bool.or_comm (names.contains n)]
      · exact h n
    simp only [freeIn, hbound, Bool.not_or, Bool.and_assoc, Bool.and_comm (!names.contains n)]

lemma map_fst_significantMarks (marked : List (Token × Bool)) :
    (significantMarks marked).map Prod.fst = significant (marked.map Prod.fst) := by
  rw [significantMarks, significant, List.filter_map]
  rfl

/-- All tokens of a look-up are significant. -/
lemma significant_lookupTokens (name : Text) : significant (lookupTokens name) = lookupTokens name := by
  unfold lookupTokens
  split
  · rfl
  split <;> rfl

lemma significant_expanded (h : VariablesMarked marked) :
    significant (marked.flatMap expanded) = (significantMarks marked).flatMap expanded := by
  induction marked with
  | nil => rfl
  | cons m rest ih =>
    obtain ⟨t, free⟩ := m
    rw [List.flatMap_cons, significant, List.filter_append]
    change significant _ ++ significant _ = _
    rw [ih h.tail]
    by_cases ht : t.isSignificant = true
    · rw [significantMarks_significant ht, List.flatMap_cons]
      cases free with
      | false => simp [expanded, significant, ht]
      | true => rw [expanded, significant_lookupTokens]
    · rw [significantMarks_blank ht]
      cases free with
      | false => simp [expanded, significant, ht]
      | true =>
        have hkind : t.kind = .name := by simpa [Token.isName] using h.head.1
        exact absurd (by simp [Token.isSignificant, hkind]) ht

lemma Unlabelled.without (h : Unlabelled marked regions) (names : List Text) :
    Unlabelled (marked.map (ComponentTags.without names)) regions := by
  induction h with
  | nil => exact .nil
  | cons hfree _ ih => exact .cons (fun hmark => hfree (Bool.and_eq_true_iff.mp hmark).1) ih

lemma significantMarks_without (names : List Text) (marked : List (Token × Bool)) :
    significantMarks (marked.map (without names)) = (significantMarks marked).map (without names) := by
  rw [significantMarks, significantMarks, List.filter_map]
  rfl

/-- Without a first word there is none behind the replacement. -/
lemma statementTag?_replaced_eq_none (h : statementTag? ts = none) (names : List Text) :
    statementTag? (((markExpression bound ts).map (without names)).flatMap expanded) = none := by
  have hmarked : VariablesMarked ((markExpression bound ts).map (without names)) :=
    variablesMarked_markFree.without names
  have htokens : (significantMarks ((markExpression bound ts).map (without names))).map Prod.fst =
      significant ts := by
    rw [map_fst_significantMarks, map_fst_without, markExpression, markFree_tokens]
  have hsignificant := hmarked.filter fun m => m.1.isSignificant
  rw [statementTag?, significant_expanded hmarked]
  rw [statementTag?, ← htokens] at h
  change VariablesMarked (significantMarks _) at hsignificant
  cases hmarks : significantMarks ((markExpression bound ts).map (without names)) with
  | nil => rfl
  | cons m more =>
    obtain ⟨t, free⟩ := m
    rw [hmarks] at h hsignificant
    simp only [List.map_cons] at h
    split at h
    · cases h
    · rename_i hname
      cases free with
      | true => exact absurd hsignificant.head.1 hname
      | false => simp [expanded, hname]

/-- The first word of a statement is kept, and so is what the statement binds. -/
lemma exists_keeps {tag : Text} {rest : List Token} (htag : statementTag? ts = some (tag, rest))
    (bound names : List Text) :
    ∃ t more, significantMarks ((markStatement bound ts).map (without names)) = (t, false) :: more ∧
      more.map Prod.fst = rest ∧ KeepsRegions tag more ∧
      statementTag? (((markStatement bound ts).map (without names)).flatMap expanded) =
        some (tag, more.flatMap expanded) := by
  rw [markStatement_eq htag]
  generalize hisFree : freeIn bound tag rest = isFree
  have hmarked : VariablesMarked ((markFree isFree {} (.label :: regionsOf tag rest) ts).map
      (without names)) := variablesMarked_markFree.without names
  have htokens : (significantMarks ((markFree isFree {} (.label :: regionsOf tag rest) ts).map
      (without names))).map Prod.fst = significant ts := by
    rw [map_fst_significantMarks, map_fst_without, markFree_tokens]
  have hlabels := (unlabelled_markFree isFree {} (.label :: regionsOf tag rest) ts).without names
  rw [← significantMarks_without] at hlabels
  have hsignificant := hmarked.filter fun m => m.1.isSignificant
  change VariablesMarked (significantMarks _) at hsignificant
  rw [statementTag?] at htag
  split at htag
  · rename_i t rest' hts
    split at htag
    · rename_i hname
      cases htag
      rw [hts] at htokens
      cases hmarks : significantMarks ((markFree isFree {} (.label :: regionsOf t.text rest) ts).map
          (without names)) with
      | nil =>
        rw [hmarks] at htokens
        cases htokens
      | cons m more =>
        obtain ⟨u, free⟩ := m
        rw [hmarks] at htokens hlabels hsignificant
        obtain ⟨rfl, hmore⟩ := List.cons.inj htokens
        cases hlabels with
        | cons hlabel hlabels =>
          obtain rfl : free = false := by
            by_contra hmark
            exact hlabel (by simpa using hmark) rfl
          refine ⟨u, more, rfl, hmore, keeps_of_unlabelled hsignificant.tail ?_ ?_, ?_⟩
          · exact hmore ▸ hlabels
          · -- the names that the statement binds are not free in it
            intro hbinder v hv
            have hmem : (v, true) ∈ significantMarks ((markFree isFree {}
                (.label :: regionsOf u.text rest) ts).map (without names)) := by
              rw [hmarks]
              exact List.mem_cons_of_mem _ hv
            obtain ⟨⟨w, free⟩, hw, heq⟩ := List.mem_map.mp (List.mem_filter.mp hmem).1
            obtain ⟨rfl, hfree⟩ := Prod.mk.inj heq
            obtain ⟨rfl, -⟩ := Bool.and_eq_true_iff.mp hfree
            obtain ⟨-, -, -, region, hregion⟩ := isVariable_of_mem_markFree hw
            rw [hmore]
            rw [← hisFree] at hregion
            exact not_mem_bindingsOf_of_freeIn hbinder hregion
          · rw [statementTag?, significant_expanded hmarked, hmarks]
            simp only [List.flatMap_cons, expanded, List.cons_append, List.nil_append]
            rw [if_pos hname]
    · cases htag
  · cases htag

/-- The marks of a statement in which the free variables but some names are replaced. -/
theorem markStatement_replaced (bound names : List Text) (ts : List Token) :
    markStatement bound (((markStatement bound ts).map (without names)).flatMap expanded) =
      (markStatement bound ts).flatMap (settled names) := by
  cases hstatement : statementTag? ts with
  | none =>
    have hexpression : markStatement bound ts = markExpression bound ts := by
      rw [markStatement, hstatement]
    rw [hexpression, markStatement, statementTag?_replaced_eq_none hstatement]
    exact markExpression_replaced bound names ts
  | some statement =>
    obtain ⟨tag, rest⟩ := statement
    obtain ⟨t, more, hmarks, rfl, hkeeps, htag⟩ := exists_keeps hstatement bound names
    rw [markStatement_eq htag, freeIn_congr hkeeps.bindings hkeeps.inner]
    rw [markStatement_eq hstatement] at hmarks ⊢
    refine markFree_replaced ⟨rfl, rfl, rfl⟩ ?_
    rw [hmarks]
    exact .kept rfl hkeeps.regions

/-- The scope behind a statement is the same when free variables of the statement are replaced. -/
theorem afterStatement_replaced (s : Scope) (bound names : List Text) (ts : List Token) :
    s.afterStatement (((markStatement bound ts).map (without names)).flatMap expanded) =
      s.afterStatement ts := by
  unfold Scope.afterStatement
  cases hstatement : statementTag? ts with
  | none =>
    have hexpression : markStatement bound ts = markExpression bound ts := by
      rw [markStatement, hstatement]
    rw [hexpression, statementTag?_replaced_eq_none hstatement]
  | some statement =>
    obtain ⟨tag, rest⟩ := statement
    obtain ⟨t, more, -, rfl, hkeeps, htag⟩ := exists_keeps hstatement bound names
    rw [htag]
    simp only [hkeeps.bindings]
    by_cases hmacro : tag = "macro"
    · rw [hkeeps.macroName hmacro]
    · simp only [if_neg hmacro]

end ComponentTags
