/-
# Targets

A loop and an assignment bind targets to what an expression gives.  The expression is read in the scope in
front of the statement: the walk over its tokens begins behind the word `in`, or behind the equals sign, as
it begins in front of an expression that is printed (`markStatement_binding`), so it is closed to the same
text with the same captured names, whether or not it mentions targets (`captureText_binding`).  The
targets are labels, which are kept, and they are bound behind the statement.
-/
import ComponentTags.Proofs.Scope.Nesting
import ComponentTags.Proofs.Scope.Single

namespace ComponentTags

open Delimiters (standard)
open ComponentTags.Span (enclosed)

/-! ### Lists of targets -/

/-- A text lists names with commas between them. -/
inductive Listing : List Text → Text → Prop
  | one {name : Text} (hname : IsWord name) : Listing [name] name
  | cons {name : Text} {names : List Text} {front back rest : Text} (hname : IsWord name)
      (hfront : ∀ x ∈ front, Text.isBlank x = true) (hback : ∀ x ∈ back, Text.isBlank x = true)
      (next : Listing names rest) : Listing (name :: names) (name ++ (front ++ (',' :: (back ++ rest))))

/-- The significant tokens of such a text. -/
inductive TargetTokens : List Text → List Token → Prop
  | one {name : Text} : TargetTokens [name] [⟨.name, name⟩]
  | cons {name : Text} {names : List Text} {ts : List Token} (next : TargetTokens names ts) :
      TargetTokens (name :: names) (⟨.name, name⟩ :: ⟨.sign, [',']⟩ :: ts)

variable {names : List Text} {targets behind : Text} {ts : List Token}

lemma IsWord.head? {name : Text} (h : IsWord name) (rest : Text) :
    ∃ c, (name ++ rest).head? = some c ∧ startsName c := by
  obtain ⟨hstart, -⟩ := h
  exact ⟨_, rfl, hstart⟩

lemma Listing.head? (h : Listing names targets) (rest : Text) :
    ∃ c, (targets ++ rest).head? = some c ∧ startsName c := by
  cases h with
  | one hname => exact hname.head? rest
  | cons hname =>
    rw [List.append_assoc]
    exact hname.head? _

/-- The tokens of a list of targets in front of a text that no name goes on with. -/
lemma Listing.exists_tokens (h : Listing names targets)
    (hbehind : behind.head?.any Text.isWordChar = false) :
    ∃ ts, tokens (targets ++ behind) = ts ++ tokens behind ∧ TargetTokens names (significant ts) := by
  induction h with
  | @one name hname =>
    exact ⟨[⟨.name, name⟩], tokens_append ((endsBefore_name_iff hname).mpr hbehind), .one⟩
  | @cons name names front back rest hname hfront hback next ih =>
    obtain ⟨ts, hts, htargets⟩ := ih
    obtain ⟨us, hus, hnone⟩ := @exists_tokens_blanks front (',' :: (back ++ (rest ++ behind))) hfront rfl
    obtain ⟨vs, hvs, hnone'⟩ := @exists_tokens_blanks back (rest ++ behind) hback <| by
      obtain ⟨c, hc, hstart⟩ := next.head? behind
      rw [hc]
      exact hstart.1
    have hcomma : tokens (',' :: (back ++ (rest ++ behind))) =
        ⟨.sign, [',']⟩ :: tokens (back ++ (rest ++ behind)) :=
      tokens_append (endsBefore_sign (by decide) (by decide) (by decide) (by decide) (by decide) _)
    have hend : Token.EndsBefore ⟨.name, name⟩ (front ++ (',' :: (back ++ (rest ++ behind)))) := by
      rw [endsBefore_name_iff hname]
      cases front with
      | nil => rfl
      | cons c front => exact isWordChar_of_isBlank (hfront c (by simp))
    refine ⟨⟨.name, name⟩ :: (us ++ ⟨.sign, [',']⟩ :: (vs ++ ts)), ?_, ?_⟩
    · simp only [List.append_assoc, List.cons_append]
      rw [tokens_append hend, hus, hcomma, hvs, hts]
    · have hsignificant : significant (⟨.name, name⟩ :: (us ++ ⟨.sign, [',']⟩ :: (vs ++ ts))) =
          ⟨.name, name⟩ :: (significant us ++ ⟨.sign, [',']⟩ :: (significant vs ++ significant ts)) := by
        simp [significant, Token.isSignificant]
      rw [hsignificant, hnone, hnone']
      exact .cons htargets

/-- A token of a list of targets is a comma or one of the names. -/
lemma TargetTokens.cases_mem (h : TargetTokens names ts) {t : Token} (ht : t ∈ ts) :
    t = ⟨.sign, [',']⟩ ∨ ∃ n ∈ names, t = ⟨.name, n⟩ := by
  induction h with
  | @one name =>
    obtain rfl := List.mem_singleton.mp ht
    exact .inr ⟨name, by simp, rfl⟩
  | @cons name names ts _ ih =>
    rcases ht with _ | ⟨_, _ | ⟨_, ht⟩⟩
    · exact .inr ⟨name, by simp, rfl⟩
    · exact .inl rfl
    · exact (ih ht).imp id fun ⟨n, hn, heq⟩ => ⟨n, by simp [hn], heq⟩

lemma TargetTokens.namesOf_eq (h : TargetTokens names ts) : namesOf ts = names := by
  induction h with
  | one => rfl
  | @cons name names ts _ ih =>
    rw [← ih]
    rfl

/-- No target of a list is a part of a dotted path. -/
lemma TargetTokens.assignedNames_eq (h : TargetTokens names ts) {previous : Option Token}
    (hprevious : previous.any (·.isSign ".") = false) : assignedNames previous ts = names := by
  induction h generalizing previous with
  | @one name =>
    rw [assignedNames, hprevious]
    rfl
  | @cons name names ts _ ih =>
    have hcomma : (some (⟨.sign, [',']⟩ : Token)).any (·.isSign ".") = false := rfl
    rw [assignedNames, hprevious]
    show name :: assignedNames (some ⟨.sign, [',']⟩) ts = name :: names
    rw [ih hcomma]

/-- The targets of a loop end in front of the word `in`. -/
lemma TargetTokens.loopTargets_append (h : TargetTokens names ts) (hkeywords : ∀ n ∈ names, n ∉ keywords)
    (es : List Token) : loopTargets (ts ++ ⟨.name, "in"⟩ :: es) = ts := by
  have hno : ∀ t ∈ ts, (!t.isNamed "in") = true := by
    intro t ht
    obtain rfl | ⟨n, hn, rfl⟩ := h.cases_mem ht
    · rfl
    · have hne : decide (n = ("in" : Text)) = false := by
        refine decide_eq_false ?_
        rintro rfl
        exact hkeywords _ hn (by decide)
      simp only [Token.isNamed, hne, Bool.and_false, Bool.not_false]
  rw [loopTargets, List.takeWhile_append_of_pos hno, List.takeWhile_cons_of_neg (by simp [Token.isNamed]),
    List.append_nil]

/-- The targets of an assignment end in front of the equals sign. -/
lemma TargetTokens.beforeSign?_append (h : TargetTokens names ts) (es : List Token) :
    beforeSign? "=" (ts ++ ⟨.sign, ['=']⟩ :: es) = some ts := by
  refine ComponentTags.beforeSign?_append (fun t ht => ?_) rfl
  obtain rfl | ⟨n, -, rfl⟩ := h.cases_mem ht
  · rfl
  · rfl

/-! ### The walk behind the targets -/

variable {isFree isFree' : Region → Text → Bool} {p p' : Passed} {regions regions' : List Region}

/-- Labels are kept, and the walk goes on behind them. -/
lemma markFree_labels (isFree : Region → Text → Bool) (p : Passed) (regions : List Region)
    (front ts : List Token) :
    markFree isFree p (((significant front).map fun _ => .label) ++ regions) (front ++ ts) =
      front.map (·, false) ++ markFree isFree ((significant front).foldl Passed.after p) regions ts := by
  induction front generalizing p with
  | nil => rfl
  | cons t front ih =>
    by_cases ht : t.isSignificant = true
    · have hcons : significant (t :: front) = t :: significant front := List.filter_cons_of_pos ht
      have hlabel : markOf isFree p .label t (front ++ ts) = false := rfl
      rw [hcons, List.cons_append, markFree_significant ht, List.map_cons, List.cons_append,
        List.headD_cons, List.tail_cons, hlabel, ih, List.map_cons, List.cons_append, List.foldl_cons]
    · have hskip : significant (t :: front) = significant front := List.filter_cons_of_neg ht
      rw [hskip, List.cons_append, markFree_blank ht, ih, List.map_cons, List.cons_append]

/-- Two walks through the outer region that begin alike mark the same variables. -/
lemma markFree_outer (halike : p.Alike p') (hregions : ∀ r ∈ regions, r = .outer)
    (hregions' : ∀ r ∈ regions', r = .outer) (hfree : isFree' .outer = isFree .outer) (ts : List Token) :
    markFree isFree' p' regions' ts = markFree isFree p regions ts := by
  have houter : ∀ rs : List Region, (∀ r ∈ rs, r = .outer) → rs.headD .outer = .outer := by
    rintro (_ | ⟨r, rs⟩) hrs
    · rfl
    · exact hrs r (by simp)
  induction ts generalizing p p' regions regions' with
  | nil => rfl
  | cons t ts ih =>
    by_cases ht : t.isSignificant = true
    · rw [markFree_significant ht, markFree_significant ht, houter _ hregions, houter _ hregions',
        ih (halike.after t) (fun r hr => hregions r (List.mem_of_mem_tail hr))
          fun r hr => hregions' r (List.mem_of_mem_tail hr)]
      simp only [markOf, hfree, halike.isVariable t rfl]
    · rw [markFree_blank ht, markFree_blank ht, ih halike hregions hregions']

/-- Tokens that are no brackets leave the open brackets alone. -/
lemma brackets_foldl_after (hts : ∀ t ∈ ts, t.opens = false ∧ t.closes = false) (p : Passed) :
    (ts.foldl Passed.after p).brackets = p.brackets := by
  induction ts generalizing p with
  | nil => rfl
  | cons t ts ih =>
    obtain ⟨hopens, hcloses⟩ := hts t (by simp)
    rw [List.foldl_cons, ih fun u hu => hts u (by simp [hu])]
    simp only [Passed.after, hopens, hcloses, Bool.false_eq_true, if_false]

/-! ### Loops and assignments -/

/-- The statements that bind targets, with the token between the targets and the expression. -/
inductive Assigns : Text → Token → Prop
  | loop : Assigns "for" ⟨.name, "in"⟩
  | assignment : Assigns "set" ⟨.sign, ['=']⟩

variable {word e : Text} {t : Token} {labels es : List Token}

namespace Assigns

lemma isWord (h : Assigns word t) : IsWord word := by
  cases h <;> exact ⟨⟨by decide, by decide, by decide, by decide⟩, List.all_eq_true.mp (by decide)⟩

lemma endsBefore (h : Assigns word t) (rest : Text) : t.EndsBefore (' ' :: rest) := by
  cases h with
  | loop =>
    have hin : IsWord ("in" : Text) :=
      ⟨⟨by decide, by decide, by decide, by decide⟩, List.all_eq_true.mp (by decide)⟩
    exact (endsBefore_name_iff hin).mpr rfl
  | assignment => exact ⟨'=', [], rfl, rfl⟩

lemma isSignificant (h : Assigns word t) : t.isSignificant = true := by cases h <;> rfl

lemma head?_isBlank (h : Assigns word t) (rest : Text) :
    (t.text ++ rest).head?.any Text.isBlank = false := by cases h <;> rfl

lemma isVariable (h : Assigns word t) (p : Passed) (next : Option Token) :
    ComponentTags.isVariable p t next = false := by
  cases h with
  | loop =>
    have hkeyword : keywords.contains ("in" : Text) = true := by decide
    simp only [ComponentTags.isVariable, hkeyword, Bool.not_true, Bool.and_false, Bool.false_and]
  | assignment => rfl

/-- Behind the token a walk is as in front of everything. -/
lemma alike (h : Assigns word t) (hbrackets : p.brackets = []) : ({} : Passed).Alike (p.after t) := by
  have hafter : (p.after t).brackets = [] := by
    cases h <;> exact hbrackets
  refine ⟨hafter, ?_, ?_⟩
  · cases h <;> rfl
  · cases h <;> rfl

/-- No name is made a binder's own. -/
lemma freeIn_outer (h : Assigns word t) (bound : List Text) (rest : List Token) :
    freeIn bound word rest .outer = fun name => !bound.contains name := by
  funext name
  cases h <;> exact Bool.and_true _

/-- The expression is in the outer region. -/
lemma exists_regions (h : Assigns word t) (hts : TargetTokens names ts)
    (hkeywords : ∀ n ∈ names, n ∉ keywords)
    (hes : word = "for" → ∀ r ∈ iterationRegions 0 es, r = .outer) :
    ∃ regions, regionsOf word (ts ++ t :: es) = (ts.map fun _ => .label) ++ .outer :: regions ∧
      ∀ r ∈ regions, r = .outer := by
  cases h with
  | loop =>
    refine ⟨iterationRegions 0 es, ?_, hes rfl⟩
    rw [regionsOf_for, hts.loopTargets_append hkeywords, List.drop_left]
  | assignment =>
    refine ⟨es.map fun _ => .outer, ?_, by simp⟩
    rw [regionsOf_set, hts.beforeSign?_append]
    simp

/-- Which names are bound behind the statement. -/
lemma mem_names_afterStatement (h : Assigns word t) (hts : TargetTokens names ts)
    (hkeywords : ∀ n ∈ names, n ∉ keywords) {us : List Token}
    (hus : statementTag? us = some (word, ts ++ t :: es)) (s : Scope) (n : Text) :
    n ∈ (s.afterStatement us).names ↔ n ∈ s.names ∨ n ∈ names ∨ word = "for" ∧ n = "loop" := by
  cases h with
  | loop =>
    have hbindings : bindingsOf "for" (ts ++ ⟨.name, "in"⟩ :: es) = names ++ [("loop" : Text)] := by
      show namesOf (loopTargets (ts ++ ⟨.name, "in"⟩ :: es)) ++ [("loop" : Text)] = _
      rw [hts.loopTargets_append hkeywords, hts.namesOf_eq]
    have hscope : s.afterStatement us = s.push "endfor" (names ++ [("loop" : Text)]) := by
      rw [Scope.afterStatement, hus, ← hbindings]
      rfl
    rw [hscope, Scope.names_push, List.mem_append, List.mem_append, List.mem_singleton, or_comm]
    simp only [true_and]
  | assignment =>
    have hbindings : bindingsOf "set" (ts ++ ⟨.sign, ['=']⟩ :: es) = names := by
      rw [bindingsOf_set, hts.beforeSign?_append]
      exact hts.assignedNames_eq rfl
    have hscope : s.afterStatement us = s.bind names := by
      rw [Scope.afterStatement, hus, ← hbindings]
      rfl
    have hset : ("set" : Text) ≠ "for" := by decide
    rw [hscope, Scope.mem_names_bind]
    simp only [hset, false_and, or_false]

end Assigns

/-- The marks of a statement that binds targets: what is in front of the expression is kept, and the
expression is marked as where it stands alone. -/
theorem markStatement_binding (h : Assigns word t) (hts : TargetTokens names ts)
    (hkeywords : ∀ n ∈ names, n ∉ keywords) (hlabels : significant labels = ⟨.name, word⟩ :: ts)
    (hes : word = "for" → ∀ r ∈ iterationRegions 0 (significant es), r = .outer) (bound : List Text) :
    statementTag? (labels ++ t :: es) = some (word, ts ++ t :: significant es) ∧
      markStatement bound (labels ++ t :: es) =
        (labels ++ [t]).map (·, false) ++ markExpression bound es := by
  have hsignificant : significant (labels ++ t :: es) = ⟨.name, word⟩ :: (ts ++ t :: significant es) := by
    rw [significant_append, hlabels, List.cons_append, significant, List.filter_cons_of_pos h.isSignificant]
    rfl
  have hstatement : statementTag? (labels ++ t :: es) = some (word, ts ++ t :: significant es) := by
    rw [statementTag?, hsignificant]
    rfl
  refine ⟨hstatement, ?_⟩
  obtain ⟨regions, hregions, houter⟩ := h.exists_regions hts hkeywords hes
  have hall : Region.label :: regionsOf word (ts ++ t :: significant es) =
      ((significant labels).map fun _ => .label) ++ .outer :: regions := by
    rw [hregions, hlabels]
    rfl
  have hbrackets : ((significant labels).foldl Passed.after {}).brackets = [] := by
    refine brackets_foldl_after (fun u hu => ?_) {}
    rw [hlabels] at hu
    rcases hu with _ | ⟨_, hu⟩
    · exact ⟨rfl, rfl⟩
    · obtain rfl | ⟨n, -, rfl⟩ := hts.cases_mem hu
      · exact ⟨rfl, rfl⟩
      · exact ⟨rfl, rfl⟩
  have hexpression : markFree (freeIn bound word (ts ++ t :: significant es))
      (((significant labels).foldl Passed.after {}).after t) regions es = markExpression bound es :=
    markFree_outer (h.alike hbrackets) (by simp) houter (h.freeIn_outer bound _) es
  rw [markStatement_eq hstatement, hall, markFree_labels, markFree_significant h.isSignificant, markOf,
    h.isVariable, Bool.and_false, Bool.false_and, List.tail_cons, hexpression, List.map_append,
    List.append_assoc]
  rfl

/-! ### Conditions of loops -/

/-- No name `if` of an expression stands outside of all brackets. -/
def Unconditional (e : Text) : Prop :=
  ∀ i < (significant (tokens e)).length,
    ((significant (tokens e)).take i).countP Token.opens =
      ((significant (tokens e)).take i).countP Token.closes →
    (significant (tokens e))[i]?.any (·.isNamed "if") = false

instance (e : Text) : Decidable (Unconditional e) :=
  inferInstanceAs (Decidable (∀ i < _, _ → _))

lemma closes_of_opens (h : t.opens = true) : t.closes = false := by
  simp only [Token.opens, Token.isSign, Bool.or_eq_true, Bool.and_eq_true, decide_eq_true_eq] at h
  rcases h with (⟨-, htext⟩ | ⟨-, htext⟩) | ⟨-, htext⟩ <;>
    · rw [Token.closes, Token.isSign, Token.isSign, Token.isSign, htext]
      simp

/-- Without a condition outside of all brackets the whole expression is in the outer region. -/
lemma iterationRegions_outer {depth : Int}
    (h : ∀ before t after, ts = before ++ t :: after →
      depth + before.countP Token.opens = before.countP Token.closes → t.isNamed "if" = false) :
    ∀ r ∈ iterationRegions depth ts, r = .outer := by
  induction ts generalizing depth with
  | nil => simp [iterationRegions]
  | cons u ts ih =>
    have hnext : ∀ depth', depth' = depth + [u].countP Token.opens - [u].countP Token.closes →
        ∀ r ∈ iterationRegions depth' ts, r = .outer := by
      rintro depth' rfl
      refine ih fun before t after hts hdepth => h (u :: before) t after (by rw [hts]; rfl) ?_
      rw [← List.singleton_append, List.countP_append, List.countP_append]
      omega
    rw [iterationRegions]
    split
    · rename_i hopens
      have hcloses := closes_of_opens hopens
      rintro r (_ | ⟨_, hr⟩)
      · rfl
      · exact hnext _ (by simp [hopens, hcloses]) r hr
    rename_i hopens
    split
    · rename_i hcloses
      rintro r (_ | ⟨_, hr⟩)
      · rfl
      · exact hnext _ (by simp [hopens, hcloses]) r hr
    rename_i hcloses
    split
    · rename_i hif
      obtain ⟨hdepth, hif⟩ := Bool.and_eq_true_iff.mp hif
      rw [h [] u ts rfl (by simpa using hdepth)] at hif
      cases hif
    · rintro r (_ | ⟨_, hr⟩)
      · rfl
      · exact hnext _ (by simp [hopens, hcloses]) r hr

lemma Unconditional.outer (h : Unconditional e) :
    ∀ r ∈ iterationRegions 0 (significant (tokens e)), r = .outer := by
  refine iterationRegions_outer fun before t after hts hdepth => ?_
  have hif := h before.length (by simp [hts])
  rw [hts, List.take_left] at hif
  have hno := hif (by omega)
  simpa using hno

/-! ### Statements as texts -/

/-- A statement that binds targets to what an expression gives. -/
def binding (word targets sign e : Text) : Text :=
  "\x7b% " ++ (word ++ (" " ++ (targets ++ (" " ++ (sign ++ (" " ++ (e ++ " %\x7d")))))))

/-- What is in front of the expression. -/
def bindingFront (word targets sign : Text) : Text := ' ' :: (word ++ (' ' :: (targets ++ (' ' :: sign))))

lemma binding_eq (word targets sign e : Text) :
    binding word targets sign e = enclosed .statement (bindingFront word targets sign ++ spaced e) := by
  simp [binding, bindingFront, enclosed, spaced, Delimiters.start, Delimiters.stop, standard]

lemma bindingFront_append (word targets sign e : Text) :
    bindingFront word targets sign ++ spaced e =
      spaced (word ++ (' ' :: (targets ++ (' ' :: (sign ++ (' ' :: e)))))) := by
  simp [bindingFront, spaced]

lemma tokens_blank (hbehind : behind.head?.any Text.isBlank = false) :
    tokens (' ' :: behind) = ⟨.blank, [' ']⟩ :: tokens behind := by
  have hend : Token.EndsBefore ⟨.blank, [' ']⟩ behind := endsBefore_blank (by decide) (by simp) hbehind
  exact tokens_append hend

/-- The tokens of a statement that binds targets. -/
lemma exists_tokens_binding (h : Assigns word t) (hlisting : Listing names targets) (e : Text) :
    ∃ labels ts, tokens (bindingFront word targets t.text ++ spaced e) = labels ++ t :: tokens (spaced e) ∧
      significant labels = ⟨.name, word⟩ :: ts ∧ TargetTokens names ts := by
  have hword : Token.EndsBefore ⟨.name, word⟩ (' ' :: (targets ++ (' ' :: (t.text ++ spaced e)))) :=
    (endsBefore_name_iff h.isWord).mpr rfl
  obtain ⟨ts, hts, htargets⟩ := @Listing.exists_tokens _ _ (' ' :: (t.text ++ spaced e)) hlisting rfl
  obtain ⟨c, hc, hstart⟩ := h.isWord.head? (' ' :: (targets ++ (' ' :: (t.text ++ spaced e))))
  obtain ⟨c', hc', hstart'⟩ := hlisting.head? (' ' :: (t.text ++ spaced e))
  refine ⟨⟨.blank, [' ']⟩ :: ⟨.name, word⟩ :: ⟨.blank, [' ']⟩ :: (ts ++ [⟨.blank, [' ']⟩]), significant ts,
    ?_, ?_, htargets⟩
  · simp only [bindingFront, List.cons_append, List.append_assoc]
    rw [tokens_blank (by rw [hc]; exact hstart.1), tokens_append hword,
      tokens_blank (by rw [hc']; exact hstart'.1), hts, tokens_blank (h.head?_isBlank _), spaced,
      tokens_append (h.endsBefore (e ++ [' ']))]
    simp
  · simp [significant, Token.isSignificant]

/-! ### Closed statements -/

/-- A statement that binds targets reads its expression in the scope in front of it, and binds the targets
behind it. -/
theorem captureIn_binding (h : Assigns word t) (hlisting : Listing names targets)
    (hkeywords : ∀ n ∈ names, n ∉ keywords) (hprinting : IsSpan (printing e))
    (hbinding : IsSpan (binding word targets t.text e)) (hcondition : word = "for" → Unconditional e)
    (s : Scope) :
    ∃ e' captured scope, captureIn standard s (printing e) = .ok ⟨printing e', captured, s⟩ ∧
      captureIn standard s (binding word targets t.text e) =
        .ok ⟨binding word targets t.text e', captured, scope⟩ ∧
      ∀ n, n ∈ scope.names ↔ n ∈ s.names ∨ n ∈ names ∨ word = "for" ∧ n = "loop" := by
  obtain ⟨labels, ts, htokens, hlabels, hts⟩ := exists_tokens_binding h hlisting e
  have houter : word = "for" →
      ∀ r ∈ iterationRegions 0 (significant (tokens (spaced e))), r = .outer := by
    intro hfor
    rw [significant_tokens_spaced hprinting]
    exact (hcondition hfor).outer
  obtain ⟨hstatement, hmarks⟩ := markStatement_binding h hts hkeywords hlabels houter s.names
  rw [List.append_cons] at htokens hstatement hmarks
  obtain ⟨e', he', hspan⟩ := exists_captureIn_printing hprinting s
  refine ⟨e', _, _, hspan, ?_, h.mem_names_afterStatement hts hkeywords hstatement s⟩
  rw [binding_eq] at hbinding
  rw [binding_eq, binding_eq word targets t.text e']
  have hword : word ≠ "raw" := by
    rintro rfl
    cases h
  have hsigned := signed_spaced (word ++ (' ' :: (targets ++ (' ' :: (t.text ++ (' ' :: e))))))
  rw [← bindingFront_append] at hsigned
  exact captureIn_of_labels hbinding hsigned htokens hstatement hword hmarks he'

/-- A statement's expression is closed as where it is printed, what is in front of the expression is kept, and
what follows the statement is closed in a scope in which some names are bound in addition. -/
def ReadsOuter (bound : List Text) (word targets sign e : Text) (names : List Text) : Prop :=
  ∃ e' captured scope, captureText (printing e) bound = .ok (printing e', captured) ∧
    captureText (binding word targets sign e) bound = .ok (binding word targets sign e', captured) ∧
    (∀ n, n ∈ scope.names ↔ n ∈ bound ∨ n ∈ names) ∧
    ∀ rest text all, captureText (binding word targets sign e ++ rest) bound = .ok (text, all) ↔
      ∃ more, captureIn standard scope rest = .ok more ∧
        text = binding word targets sign e' ++ more.text ∧ all = (captured ++ more.captured).eraseDups

/-- Loops and assignments read the outer scope.  Whatever names their expression mentions, it is closed as
where it is printed alone, the targets are kept, and behind the statement exactly the targets are bound in
addition, and the loop's own name behind a loop.  The condition of a loop is left out. -/
theorem captureText_binding {names : List Text} {targets e : Text} (bound : List Text)
    (hlisting : Listing names targets) (hkeywords : ∀ n ∈ names, n ∉ keywords)
    (hprinting : IsSpan (printing e)) :
    (IsSpan (binding "for" targets "in" e) → Unconditional e →
      ReadsOuter bound "for" targets "in" e (names ++ [("loop" : Text)])) ∧
    (IsSpan (binding "set" targets "=" e) → ReadsOuter bound "set" targets "=" e names) := by
  have hreads : ∀ {word sign more}, Assigns word sign → IsSpan (binding word targets sign.text e) →
      (word = "for" → Unconditional e) → (∀ n, n ∈ more ↔ n ∈ names ∨ word = "for" ∧ n = "loop") →
      ReadsOuter bound word targets sign.text e more := by
    intro word sign more hassigns hbinding hcondition hmore
    obtain ⟨e', captured, scope, hspan, hstatement, hscope⟩ :=
      captureIn_binding hassigns hlisting hkeywords hprinting hbinding hcondition ⟨bound, []⟩
    have hlast : (binding word targets sign.text e).getLast? ≠ some '\x7b' := by
      rw [binding_eq, getLast?_enclosed]
      decide
    refine ⟨e', captured.eraseDups, scope, ?_, ?_, ?_, ?_⟩
    · exact captureText_eq_ok_iff.mpr ⟨_, hspan, rfl, rfl⟩
    · exact captureText_eq_ok_iff.mpr ⟨_, hstatement, rfl, rfl⟩
    · intro n
      rw [hscope, hmore]
      rfl
    · intro rest text all
      rw [captureText_eq_ok_iff]
      constructor
      · rintro ⟨whole, hwhole, rfl, rfl⟩
        obtain ⟨more, hmore, rfl⟩ := (captureIn_append hstatement hlast).mp hwhole
        exact ⟨more, hmore, rfl, (eraseDups_append_eraseDups _ _).symm⟩
      · rintro ⟨more, hmore, rfl, rfl⟩
        exact ⟨_, (captureIn_append hstatement hlast).mpr ⟨more, hmore, rfl⟩, rfl,
          eraseDups_append_eraseDups _ _⟩
  refine ⟨fun hbinding hcondition => ?_, fun hbinding => ?_⟩
  · exact hreads .loop hbinding (fun _ => hcondition) fun n => by simp
  · exact hreads .assignment hbinding (fun hword => absurd hword (by decide)) fun n => by simp

/-- An expression that mentions targets: as variables, as a keyword argument, as the name of a test, and in a
condition in brackets. -/
def rebinding : Text := "f(y, x=(x if y is x))"

/-- The expression, closed where `f` is bound. -/
def rebindingClosed : Text :=
  "f(glam__ctx.locals[\"y\"], x=(glam__ctx.locals[\"x\"] if glam__ctx.locals[\"y\"] is x))"

theorem captureText_binding_rebinding :
    Listing ["x", "y"] "x, y" ∧ (∀ n ∈ (["x", "y"] : List Text), n ∉ keywords) ∧
      IsSpan (printing rebinding) ∧ IsSpan (binding "for" "x, y" "in" rebinding) ∧
      IsSpan (binding "set" "x, y" "=" rebinding) ∧ Unconditional rebinding ∧
      captureText (printing rebinding) ["f"] = .ok (printing rebindingClosed, ["y", "x"]) ∧
      captureText (binding "for" "x, y" "in" rebinding) ["f"] =
        .ok (binding "for" "x, y" "in" rebindingClosed, ["y", "x"]) ∧
      captureText (binding "set" "x, y" "=" rebinding) ["f"] =
        .ok (binding "set" "x, y" "=" rebindingClosed, ["y", "x"]) := by
  have hx : IsWord ("x" : Text) := ⟨⟨by decide, by decide, by decide, by decide⟩, by simp⟩
  have hy : IsWord ("y" : Text) := ⟨⟨by decide, by decide, by decide, by decide⟩, by simp⟩
  have hlisting : Listing ["x", "y"] "x, y" :=
    @Listing.cons "x" ["y"] [] " " "y" hx (by simp) (List.all_eq_true.mp (by decide)) (.one hy)
  have hkeywords : ∀ n ∈ (["x", "y"] : List Text), n ∉ keywords := by decide
  have hprinting : IsSpan (printing rebinding) := by with_unfolding_all rfl
  have hloop : IsSpan (binding "for" "x, y" "in" rebinding) := by with_unfolding_all rfl
  have hset : IsSpan (binding "set" "x, y" "=" rebinding) := by with_unfolding_all rfl
  have hcondition : Unconditional rebinding := by decide +kernel
  have hclosed : captureText (printing rebinding) ["f"] = .ok (printing rebindingClosed, ["y", "x"]) := by
    with_unfolding_all rfl
  obtain ⟨hfor, hassignment⟩ := captureText_binding ["f"] hlisting hkeywords hprinting
  have hsame : ∀ {e' captured}, captureText (printing rebinding) ["f"] = .ok (printing e', captured) →
      e' = rebindingClosed ∧ captured = (["y", "x"] : List Text) := by
    intro e' captured h
    rw [hclosed, Except.ok.injEq, Prod.mk.injEq] at h
    exact ⟨(printing_inj.mp h.1).symm, h.2.symm⟩
  obtain ⟨e', captured, -, hspan, hstatement, -⟩ := hfor hloop hcondition
  obtain ⟨rfl, rfl⟩ := hsame hspan
  obtain ⟨e', captured, -, hspan, hstatement', -⟩ := hassignment hset
  obtain ⟨rfl, rfl⟩ := hsame hspan
  exact ⟨hlisting, hkeywords, hprinting, hloop, hset, hcondition, hclosed, hstatement, hstatement'⟩

end ComponentTags
