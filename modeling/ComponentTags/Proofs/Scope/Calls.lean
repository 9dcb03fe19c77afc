/-
# Calls with parameters

The statement of a call block lists parameters and gives the expression that is called.  The parameters are
bound up to the end of the block (`captureIn_calling`), but the statement reads its own expression as if it
stood in the block: it is closed as where it is printed and the parameters are bound already
(`captureText_calling`).  So a name that the expression shares with a parameter is not captured, and an
expression that captures no parameter is closed as in front of the block (`captureText_calling_captured`).
-/
import ComponentTags.Proofs.Scope.Composition
import ComponentTags.Proofs.Scope.Targets

namespace ComponentTags

open Delimiters (standard)
open ComponentTags.Span (enclosed)

/-! ### Lists of parameters -/

/-- A text lists parameters: nothing, or names with commas between them. -/
inductive Parameters : List Text → Text → Prop
  | none : Parameters [] []
  | some {names : List Text} {text : Text} (h : Listing names text) : Parameters names text

variable {names : List Text} {parameters behind e : Text} {ts es : List Token} {t : Token}

/-- Behind a bracket or a comma, the parameters are read up to the closing bracket. -/
lemma TargetTokens.parameters_append (h : TargetTokens names ts)
    (ht : (t.isSign "(" || t.isSign ",") = true) (es : List Token) :
    ComponentTags.parameters 1 t (ts ++ ⟨.sign, [')']⟩ :: es) = names := by
  induction h generalizing t with
  | @one name =>
    have hopens : (⟨.name, name⟩ : Token).opens = false := rfl
    have hcloses : (⟨.name, name⟩ : Token).closes = false := rfl
    simp only [List.cons_append, List.nil_append, ComponentTags.parameters, hopens, hcloses, ht]
    rfl
  | @cons name names ts _ ih =>
    have hopens : (⟨.name, name⟩ : Token).opens = false := rfl
    have hcloses : (⟨.name, name⟩ : Token).closes = false := rfl
    have hrest := @ih ⟨.sign, [',']⟩ rfl
    simp only [List.cons_append, ComponentTags.parameters, hopens, hcloses, ht]
    rw [← hrest]
    rfl

/-- Significant tokens that list parameters between brackets. -/
structure ParameterTokens (names : List Text) (ts : List Token) : Prop where
  cases_mem : ∀ t ∈ ts, t = ⟨.sign, [',']⟩ ∨ ∃ n ∈ names, t = ⟨.name, n⟩
  read : ∀ es, parameterList (⟨.sign, ['(']⟩ :: (ts ++ ⟨.sign, [')']⟩ :: es)) = names

/-- The tokens of a list of parameters in front of the closing bracket. -/
lemma Parameters.exists_tokens (h : Parameters names parameters) (behind : Text) :
    ∃ ts, tokens (parameters ++ ')' :: behind) = ts ++ ⟨.sign, [')']⟩ :: tokens behind ∧
      ParameterTokens names (significant ts) := by
  have hbracket : tokens (')' :: behind) = ⟨.sign, [')']⟩ :: tokens behind :=
    tokens_append (endsBefore_sign (by decide) (by decide) (by decide) (by decide) (by decide) _)
  cases h with
  | none => exact ⟨[], hbracket, ⟨fun t ht => (List.not_mem_nil ht).elim, fun es => rfl⟩⟩
  | some h =>
    obtain ⟨ts, hts, htargets⟩ := @Listing.exists_tokens _ _ (')' :: behind) h rfl
    refine ⟨ts, by rw [hts, hbracket], ⟨fun t ht => htargets.cases_mem ht, fun es => ?_⟩⟩
    exact htargets.parameters_append rfl es

/-! ### The walk over a statement -/

variable {isFree : Region → Text → Bool} {p : Passed} {regions : List Region} {front : List Token}

/-- Tokens whose names are bound are kept, and the walk goes on behind them. -/
lemma markFree_bound (hregions : ∀ r ∈ regions, r = .outer)
    (hbound : ∀ t ∈ front, t.isName = true → isFree .outer t.text = false) (ts : List Token) :
    markFree isFree p regions (front ++ ts) =
      front.map (·, false) ++
        markFree isFree ((significant front).foldl Passed.after p)
          (regions.drop (significant front).length) ts := by
  induction front generalizing p regions with
  | nil => rfl
  | cons t front ih =>
    have hbehind : ∀ u ∈ front, u.isName = true → isFree .outer u.text = false :=
      fun u hu => hbound u (List.mem_cons_of_mem _ hu)
    by_cases ht : t.isSignificant = true
    · have hcons : significant (t :: front) = t :: significant front := List.filter_cons_of_pos ht
      have houter : regions.headD .outer = .outer := by
        cases regions with
        | nil => rfl
        | cons r regions => exact hregions r (List.mem_cons_self ..)
      have hmark : markOf isFree p .outer t (front ++ ts) = false := by
        by_cases hname : t.isName = true
        · rw [markOf, hbound t (List.mem_cons_self ..) hname, Bool.and_false]
        · simp [markOf, isVariable, hname]
      rw [List.cons_append, markFree_significant ht, houter, hmark,
        ih (fun r hr => hregions r (List.mem_of_mem_tail hr)) hbehind, hcons, List.map_cons,
        List.cons_append, List.foldl_cons, List.length_cons, ← List.drop_one, List.drop_drop,
        Nat.add_comm 1]
    · have hskip : significant (t :: front) = significant front := List.filter_cons_of_neg ht
      rw [List.cons_append, markFree_blank ht, ih hregions hbehind, hskip, List.map_cons,
        List.cons_append]

/-- The tokens of a list of parameters with its brackets. -/
def bracketed (ts : List Token) : List Token := ⟨.sign, ['(']⟩ :: (ts ++ [⟨.sign, [')']⟩])

/-- The tokens of a call up to its expression. -/
def callTokens (ts : List Token) : List Token := [⟨.blank, [' ']⟩, ⟨.name, "call"⟩] ++ bracketed ts

/-- Behind a list of parameters a walk is as in front of everything. -/
lemma alike_bracketed (hts : ParameterTokens names ts) (hbrackets : p.brackets = []) :
    ({} : Passed).Alike ((bracketed ts).foldl Passed.after p) := by
  have hquiet : ∀ t ∈ ts, t.opens = false ∧ t.closes = false := by
    intro t ht
    obtain rfl | ⟨n, -, rfl⟩ := hts.cases_mem t ht
    · exact ⟨rfl, rfl⟩
    · exact ⟨rfl, rfl⟩
  rw [bracketed, List.foldl_cons, List.foldl_append, List.foldl_cons, List.foldl_nil]
  refine ⟨?_, rfl, rfl⟩
  have hopened : (ts.foldl Passed.after (p.after ⟨.sign, ['(']⟩)).brackets = [['(']] := by
    rw [brackets_foldl_after hquiet]
    show ['('] :: p.brackets = _
    rw [hbrackets]
  show List.tail _ = []
  rw [hopened, List.tail_cons]

lemma significant_bracketed (ts : List Token) : significant (bracketed ts) = bracketed (significant ts) := by
  simp [bracketed, significant, Token.isSignificant]

lemma statementTag?_call (ts es : List Token) :
    statementTag? (callTokens ts ++ es) =
      some (("call" : Text), bracketed (significant ts) ++ significant es) := by
  rw [statementTag?, callTokens, significant_append, significant_append, significant_bracketed,
    List.append_assoc]
  rfl

lemma ParameterTokens.bindingsOf_call (hts : ParameterTokens names ts) (es : List Token) :
    bindingsOf "call" (bracketed ts ++ es) = names := by
  rw [← hts.read es, bracketed, List.cons_append, List.append_assoc]
  rfl

/-- The only names between the brackets are the parameters. -/
lemma ParameterTokens.mem_of_isName (hts : ParameterTokens names (significant ts)) (ht : t ∈ bracketed ts)
    (hname : t.isName = true) : t.text ∈ names := by
  have hkind : t.kind = .name := by simpa [Token.isName] using hname
  have hmem : t ∈ significant (bracketed ts) :=
    List.mem_filter.mpr ⟨ht, by simp [Token.isSignificant, hkind]⟩
  rw [significant_bracketed, bracketed, List.mem_cons, List.mem_append, List.mem_singleton] at hmem
  rcases hmem with rfl | hmem | rfl
  · cases hname
  · obtain rfl | ⟨n, hn, rfl⟩ := hts.cases_mem t hmem
    · cases hname
    · exact hn
  · cases hname

/-- The marks of a call: its parameters are kept, and the expression is marked where they are bound. -/
lemma markStatement_call (hts : ParameterTokens names (significant ts)) (bound : List Text)
    (es : List Token) :
    markStatement bound (callTokens ts ++ es) =
      (callTokens ts).map (·, false) ++ markExpression (bound ++ names) es := by
  have hstatement := statementTag?_call ts es
  have hbindings := hts.bindingsOf_call (significant es)
  generalize bracketed (significant ts) ++ significant es = rest at hstatement hbindings
  have hfree : freeIn bound "call" rest .outer = fun name => !(bound ++ names).contains name := by
    funext name
    rw [freeIn, hbindings]
    exact Bool.and_true _
  have hkept : ∀ t ∈ bracketed ts, t.isName = true → freeIn bound "call" rest .outer t.text = false := by
    intro t ht hname
    rw [hfree]
    simp [hts.mem_of_isName ht hname]
  have houter : ∀ r ∈ regionsOf "call" rest, r = .outer := by
    have hregions : regionsOf "call" rest = rest.map fun _ => .outer := rfl
    rw [hregions]
    simp
  have hlabels := markFree_labels (freeIn bound "call" rest) {} (regionsOf "call" rest)
    [⟨.blank, [' ']⟩, ⟨.name, "call"⟩] (bracketed ts ++ es)
  have hexpression : markFree (freeIn bound "call" rest)
      ((bracketed (significant ts)).foldl Passed.after (({} : Passed).after ⟨.name, "call"⟩))
      ((regionsOf "call" rest).drop (bracketed (significant ts)).length) es =
        markExpression (bound ++ names) es :=
    markFree_outer (alike_bracketed hts rfl) (by simp) (fun r hr => houter r (List.mem_of_mem_drop hr))
      hfree es
  rw [markStatement_eq hstatement, callTokens, List.append_assoc]
  refine hlabels.trans ?_
  rw [markFree_bound houter hkept, significant_bracketed, List.map_append, List.append_assoc]
  exact congrArg _ (congrArg _ hexpression)

/-! ### Calls as texts -/

/-- The statement of a call block with parameters. -/
def calling (parameters e : Text) : Text :=
  "\x7b% call(" ++ (parameters ++ (") " ++ (e ++ " %\x7d")))

/-- What is in front of the expression. -/
def callFront (parameters : Text) : Text := ' ' :: ("call" ++ ('(' :: (parameters ++ [')'])))

lemma callFront_append (parameters rest : Text) :
    callFront parameters ++ rest = ' ' :: ("call" ++ ('(' :: (parameters ++ ')' :: rest))) := by
  simp [callFront]

lemma callFront_spaced (parameters e : Text) :
    callFront parameters ++ spaced e = spaced ("call" ++ ('(' :: (parameters ++ ')' :: ' ' :: e))) := by
  simp [callFront, spaced]

lemma calling_eq (parameters e : Text) :
    calling parameters e = enclosed .statement (callFront parameters ++ spaced e) := by
  rw [callFront_append]
  simp only [enclosed, spaced, Delimiters.start, Delimiters.stop, standard, List.append_assoc,
    List.cons_append]
  rfl

/-- The tokens of a call. -/
lemma exists_tokens_calling (h : Parameters names parameters) (e : Text) :
    ∃ ts, tokens (callFront parameters ++ spaced e) = callTokens ts ++ tokens (spaced e) ∧
      ParameterTokens names (significant ts) := by
  obtain ⟨ts, hts, hread⟩ := h.exists_tokens (spaced e)
  have hcall : IsWord ("call" : Text) :=
    ⟨⟨by decide, by decide, by decide, by decide⟩, List.all_eq_true.mp (by decide)⟩
  have hword : Token.EndsBefore ⟨.name, "call"⟩ ('(' :: (parameters ++ ')' :: spaced e)) :=
    (endsBefore_name_iff hcall).mpr rfl
  have hbracket : tokens ('(' :: (parameters ++ ')' :: spaced e)) =
      ⟨.sign, ['(']⟩ :: tokens (parameters ++ ')' :: spaced e) :=
    tokens_append (endsBefore_sign (by decide) (by decide) (by decide) (by decide) (by decide) _)
  refine ⟨ts, ?_, hread⟩
  rw [callFront_append, tokens_blank rfl, tokens_append hword, hbracket, hts]
  simp [callTokens, bracketed]

/-! ### Closed calls -/

/-- The parameters of a call are bound behind its statement, up to the end of its block, and the expression of
the statement is closed as where it is printed and they are bound. -/
theorem captureIn_calling (hparameters : Parameters names parameters) (hprinting : IsSpan (printing e))
    (hcalling : IsSpan (calling parameters e)) (s : Scope) :
    ∃ e' captured,
      captureIn standard ⟨s.names ++ names, []⟩ (printing e) =
        .ok ⟨printing e', captured, ⟨s.names ++ names, []⟩⟩ ∧
      captureIn standard s (calling parameters e) =
        .ok ⟨calling parameters e', captured, s.push "endcall" names⟩ := by
  obtain ⟨ts, htokens, hts⟩ := exists_tokens_calling hparameters e
  have hstatement := statementTag?_call ts (tokens (spaced e))
  have hbindings := hts.bindingsOf_call (significant (tokens (spaced e)))
  obtain ⟨e', he', hspan⟩ := exists_captureIn_printing hprinting ⟨s.names ++ names, []⟩
  have hscope : s.afterStatement (callTokens ts ++ tokens (spaced e)) = s.push "endcall" names := by
    rw [Scope.afterStatement, hstatement, ← hbindings]
    rfl
  have hsigned := signed_spaced ("call" ++ ('(' :: (parameters ++ ')' :: ' ' :: e)))
  rw [← callFront_spaced] at hsigned
  refine ⟨e', _, hspan, ?_⟩
  rw [calling_eq] at hcalling
  rw [calling_eq, calling_eq parameters e', ← hscope]
  exact captureIn_of_labels hcalling hsigned htokens hstatement (by decide)
    (markStatement_call hts s.names _) he'

variable {e' : Text} {bound captured : List Text}

/-- The expression of a call is closed as where it is printed and the parameters are bound. -/
theorem captureText_calling (bound : List Text) (hparameters : Parameters names parameters)
    (hprinting : IsSpan (printing e)) (hcalling : IsSpan (calling parameters e)) :
    ∃ e' captured, captureText (printing e) (bound ++ names) = .ok (printing e', captured) ∧
      captureText (calling parameters e) bound = .ok (calling parameters e', captured) := by
  obtain ⟨e', captured, hspan, hcall⟩ := captureIn_calling hparameters hprinting hcalling ⟨bound, []⟩
  refine ⟨e', captured.eraseDups, ?_, ?_⟩
  · exact captureText_eq_ok_iff.mpr ⟨_, hspan, rfl, rfl⟩
  · exact captureText_eq_ok_iff.mpr ⟨_, hcall, rfl, rfl⟩

/-- Marks are kept where none of the names that are taken away is captured. -/
lemma map_without_of_notMem {marked : List (Token × Bool)}
    (h : ∀ n ∈ names, isCaptured n = true ∧ n ∉ capturedNames marked) :
    marked.map (without names) = marked := by
  refine (List.map_congr_left fun m hm => ?_).trans (List.map_id marked)
  obtain ⟨t, free⟩ := m
  cases free with
  | false => rfl
  | true =>
    have hno : t.text ∉ names := by
      intro hn
      obtain ⟨hcaptured, hnot⟩ := h t.text hn
      refine hnot (List.mem_map.mpr ⟨(t, true), List.mem_filter.mpr ⟨hm, ?_⟩, rfl⟩)
      simpa using hcaptured
    simp [without, hno]

/-- Where some names are bound in addition, a printed expression captures what it captures without them, and
is closed in the same way if it captures none of them. -/
lemma captureText_printing_append (hprinting : IsSpan (printing e))
    (h : captureText (printing e) bound = .ok (printing e', captured)) (names : List Text) :
    ∃ e'', captureText (printing e) (bound ++ names) =
        .ok (printing e'', captured.filter fun n => !names.contains n) ∧
      ((∀ n ∈ names, isCaptured n = true ∧ n ∉ captured) → e'' = e') := by
  obtain ⟨first, hfirst, hspan⟩ := exists_captureIn_printing hprinting ⟨bound, []⟩
  obtain ⟨second, hsecond, hspan'⟩ := exists_captureIn_printing hprinting ⟨bound ++ names, []⟩
  have hnames : (⟨bound, []⟩ : Scope).names = bound := rfl
  have hnames' : (⟨bound ++ names, []⟩ : Scope).names = bound ++ names := rfl
  have hwithout : markExpression (bound ++ names) (tokens (spaced e)) =
      (markExpression bound (tokens (spaced e))).map (without names) :=
    markExpression_without (fun n => List.contains_append) _
  rw [hnames] at hfirst hspan
  rw [hnames', hwithout] at hsecond hspan'
  rw [captureText_eq_ok_iff.mpr ⟨_, hspan, rfl, rfl⟩, Except.ok.injEq, Prod.mk.injEq, printing_inj] at h
  obtain ⟨rfl, rfl⟩ := h
  refine ⟨second, ?_, fun hno => ?_⟩
  · rw [← eraseDups_filter, ← capturedNames_map_without]
    exact captureText_eq_ok_iff.mpr ⟨_, hspan', rfl, rfl⟩
  · have hkept := map_without_of_notMem fun n hn =>
      ⟨(hno n hn).1, fun hmem => (hno n hn).2 (List.mem_eraseDups.mpr hmem)⟩
    rw [hkept, hfirst] at hsecond
    exact (List.append_cancel_right (List.cons.inj hsecond).2).symm

/-- A call captures what its expression captures where it is printed in front of the block, without the
parameters, and its expression is closed as there if it captures no parameter. -/
theorem captureText_calling_captured (hparameters : Parameters names parameters)
    (hprinting : IsSpan (printing e)) (hcalling : IsSpan (calling parameters e))
    (h : captureText (printing e) bound = .ok (printing e', captured)) :
    ∃ e'', captureText (calling parameters e) bound =
        .ok (calling parameters e'', captured.filter fun n => !names.contains n) ∧
      ((∀ n ∈ names, isCaptured n = true ∧ n ∉ captured) → e'' = e') := by
  obtain ⟨e'', hspan, hsame⟩ := captureText_printing_append hprinting h names
  obtain ⟨called, all, hspan', hcall⟩ := captureText_calling bound hparameters hprinting hcalling
  rw [hspan, Except.ok.injEq, Prod.mk.injEq, printing_inj] at hspan'
  obtain ⟨rfl, rfl⟩ := hspan'
  exact ⟨e'', hcall, hsame⟩

/-- The name that a call shares with its own parameter is captured in front of the block only. -/
example : (captureText (calling "x" "f(x)") []).map Prod.snd = .ok ["f"] ∧
    (captureText (printing "f(x)") []).map Prod.snd = .ok ["f", "x"] := by
  constructor <;> with_unfolding_all rfl

end ComponentTags
