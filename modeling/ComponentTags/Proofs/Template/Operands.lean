/-
# Operands

An operand is a value with what stands behind it.  Operands are made from names, strings and dictionaries
(`Operand.name`, `Operand.string`, `Operand.dict`), and attributes, items and calls can be added at their end
(`Operand.member`, `Operand.item`, `Operand.call`).  In front of a lexeme with which no operator begins, an
operand is a whole expression (`Written.of_operand`), however the reader of whole expressions gets to it.
-/
import ComponentTags.Proofs.Template.Reading

namespace ComponentTags.Template.Reader

variable {l stop : Lexeme} {ls mid rest more front : List Lexeme} {e : Expr} {fuel : Nat}
  {withChoices : Bool} {whole : Whole}

/-! ### What may stand around an operand -/

/-- Whether an expression ends in front of a lexeme. -/
def endsExpression : Lexeme → Bool
  | .valueEnd | .blockEnd => true
  | .sign s => ([")", "]", "\x7d", ",", ":"] : List Text).contains s
  | _ => false

/-- Whether an operand can be followed by a lexeme that adds something to it or ends the expression. -/
def followsOperand : Lexeme → Bool
  | .valueEnd | .blockEnd => true
  | .sign s => s ≠ "="
  | _ => false

/-- Whether an operand can begin with a lexeme. -/
def leadsOperand : Lexeme → Bool
  | .name n => n ≠ "not"
  | .string _ => true
  | .sign s => s = "\x7b"
  | _ => false

lemma isSign_of_endsExpression {s : Text} (hs : s ∉ ([")", "]", "\x7d", ",", ":"] : List Text))
    (h : endsExpression stop = true) : stop.isSign s = false := by
  cases stop with
  | sign t =>
    refine decide_eq_false fun ht => hs ?_
    rw [← ht]
    exact List.contains_iff_mem.mp h
  | _ => rfl

lemma isName_of_endsExpression (s : Text) (h : endsExpression stop = true) : stop.isName s = false := by
  cases stop with
  | name t => cases h
  | _ => rfl

lemma isFault_of_followsOperand (h : followsOperand stop = true) : stop.isFault = false := by
  cases stop <;> first | rfl | cases h

lemma followsOperand_of_endsExpression (h : endsExpression stop = true) : followsOperand stop = true := by
  cases stop with
  | sign s =>
    have hall : ∀ t ∈ ([")", "]", "\x7d", ",", ":"] : List Text), t ≠ "=" := by decide
    exact decide_eq_true (hall s (List.contains_iff_mem.mp h))
  | valueEnd => rfl
  | blockEnd => rfl
  | _ => cases h

/-! ### Layers of operators -/

lemma reads_leftChain {operand : Reader Expr} (operator? : Lexeme → Option Value.Operator)
    (h : Reads operand ls (· = e) (stop :: more)) (hstop : operator? stop = none) :
    Reads (leftChain operand operator?) ls (· = e) (stop :: more) := by
  refine h.bind_eq (reads_iterate_of_none (Reads.current.bind fun first hfirst => ?_))
  simp only [hfirst, hstop]
  exact .pure none

lemma reads_wordChain {operand : Reader Expr} {word : Text} {join : Expr → Expr → Expr}
    (h : Reads operand ls (· = e) (stop :: more)) (hstop : stop.isName word = false) :
    Reads (wordChain word join operand) ls (· = e) (stop :: more) :=
  h.bind_eq (reads_iterate_of_none ((Reads.takeIf_of_not hstop).bind_eq (.pure none)))

/-- Nothing is added to a value in front of a lexeme that ends the expression. -/
lemma reads_filtered (hstop : endsExpression stop = true) :
    Reads (filtered whole e) (stop :: more) (· = e) (stop :: more) := by
  have hbar : stop.isSign "|" = false := isSign_of_endsExpression (by decide) hstop
  have hparenthesis : stop.isSign "(" = false := isSign_of_endsExpression (by decide) hstop
  have his : stop.isName "is" = false := isName_of_endsExpression _ hstop
  refine reads_iterate_of_none (Reads.current.bind fun first hfirst => ?_)
  rw [hfirst, hbar, his, hparenthesis]
  exact .pure none

lemma reads_unary (h : Reads (primary whole >>= behind whole) (l :: ls) (· = e) (stop :: more))
    (hl : leadsOperand l = true) (hstop : endsExpression stop = true) :
    Reads (unary whole) (l :: ls) (· = e) (stop :: more) := by
  have hminus : (l.isSign "-" || l.isSign "+") = false := by
    cases l with
    | sign s =>
      have hs : s = "\x7b" := of_decide_eq_true hl
      subst hs
      rfl
    | _ => rfl
  have hsigns : Reads (iterate (fun (signs : List Bool) => do
      let l := (← current).lexeme
      if l.isSign "-" || l.isSign "+" then
        let _ ← take
        return some (l.isSign "-" :: signs)
      else return none) []) (l :: ls) (· = []) (l :: ls) := by
    refine reads_iterate_of_none (Reads.current.bind fun first hfirst => ?_)
    simp only [hfirst, hminus]
    exact .pure none
  refine hsigns.bind_eq ?_
  have hvalue := h.bind_eq (f := filtered whole) (reads_filtered hstop)
  rwa [bind_assoc] at hvalue

lemma reads_joining (h : Reads (product whole) ls (· = e) (stop :: more)) (hstop : stop.isSign "~" = false) :
    Reads (joining whole) ls (· = e) (stop :: more) := by
  refine h.bind_eq ?_
  exact (reads_iterate_of_none ((Reads.takeIf_of_not hstop).bind_eq (.pure none))).bind_eq (.pure e)

lemma reads_comparisons (h : Reads (sum whole) ls (· = e) (stop :: more)) (hstop : comparing? stop = none)
    (hnot : stop.isName "not" = false) : Reads (comparisons whole) ls (· = e) (stop :: more) := by
  have hcomparison : Reads comparison? (stop :: more) (· = none) (stop :: more) := by
    refine Reads.current.bind fun first hfirst => ?_
    simp only [hfirst, hstop, hnot]
    exact Reads.next_any.bind fun _ _ => .pure none
  refine h.bind_eq (Reads.bind_eq (a := []) (reads_iterate_of_none ?_) (.pure e))
  exact hcomparison.bind_eq (f := fun _ => _) (.pure none)

lemma reads_negations (h : Reads (comparisons whole) (l :: ls) (· = e) rest) (hl : l.isName "not" = false) :
    Reads (negations whole) (l :: ls) (· = e) rest := by
  refine (reads_iterate_of_none ((Reads.takeIf_of_not hl).bind_eq (.pure none))).bind_eq ?_
  exact h.bind_eq (.pure e)

/-- In front of a lexeme that ends the expression, a value with what stands behind it is a whole expression. -/
lemma reads_expressionWithin
    (h : Reads (primary (expressionWithin fuel) >>= behind (expressionWithin fuel)) (l :: ls) (· = e)
      (stop :: more))
    (hl : leadsOperand l = true) (hstop : endsExpression stop = true) :
    Reads (expressionWithin (fuel + 1) withChoices) (l :: ls) (· = e) (stop :: more) := by
  have hsign {s : Text} (hs : s ∉ ([")", "]", "\x7d", ",", ":"] : List Text)) : stop.isSign s = false :=
    isSign_of_endsExpression hs hstop
  have hname (s : Text) : stop.isName s = false := isName_of_endsExpression s hstop
  have hnot : l.isName "not" = false := by
    cases l with
    | name n => exact decide_eq_false (of_decide_eq_true hl)
    | _ => rfl
  have hproduct := reads_leftChain multiplying?
    (reads_leftChain (fun l => if l.isSign "**" then some .pow else none)
      (reads_unary h hl hstop) (by simp [hsign])) (by simp [multiplying?, hsign])
  have hsum := reads_leftChain adding? (reads_joining hproduct (hsign (by decide)))
    (by simp [adding?, hsign])
  have hcomparisons := reads_comparisons hsum (by simp [comparing?, hsign, hname]) (hname _)
  have halternatives : Reads (alternatives (expressionWithin fuel)) (l :: ls) (· = e) (stop :: more) :=
    reads_wordChain (reads_wordChain (reads_negations hcomparisons hnot) (hname _)) (hname _)
  cases withChoices with
  | false => exact halternatives
  | true =>
    refine Reads.current.bind fun _ _ => halternatives.bind_eq ?_
    exact (reads_iterate_of_none ((Reads.takeIf_of_not (hname _)).bind_eq (.pure none))).bind_eq (.pure e)

/-! ### Operands -/

/-- Lexemes that can stand behind an operand. -/
def Follows (ls : List Lexeme) : Prop := ∃ l more, ls = l :: more ∧ followsOperand l = true

/-- Lexemes that begin with an operand, which is no name of an argument. -/
def Leads (ls : List Lexeme) : Prop :=
  ∃ l l' more, ls = l :: l' :: more ∧ leadsOperand l = true ∧ l'.isSign "=" = false

/-- The step of the loop that reads what stands behind a value. -/
def behindStep (whole : Whole) (e : Expr) : Reader (Option Expr) := do
  let l := (← current).lexeme
  if l.isSign "." then
    let _ ← take
    return some (← dotted e)
  else if l.isSign "[" then
    let _ ← take
    return some (← subscripts whole e)
  else if l.isSign "(" then return some (.call e (← arguments whole))
  else return none

lemma behind_eq (whole : Whole) (e : Expr) : behind whole e = iterate (behindStep whole) e := rfl

/-- Lexemes that are read as a value with what stands behind it, when brackets in it are nested no deeper than
`fuel`. -/
structure Operand (fuel : Nat) (front : List Lexeme) (e : Expr) : Prop where
  /-- They begin with a value. -/
  leads : ∀ {rest}, Follows rest → Leads (front ++ rest)
  /-- What stands behind the value leads to the expression, and goes on from there. -/
  reads : ∀ {rest}, Follows rest → ∃ first mid,
    Reads (primary (expressionWithin fuel)) (front ++ rest) (· = first) mid ∧
      ∀ P rest', Iterates (behindStep (expressionWithin fuel)) e rest P rest' →
        Iterates (behindStep (expressionWithin fuel)) first mid P rest'

/-- Lexemes that are read as a whole expression in front of a lexeme that ends it. -/
structure Written (front : List Lexeme) (e : Expr) : Prop where
  /-- They begin with a value. -/
  leads : ∀ {rest}, Follows rest → Leads (front ++ rest)
  /-- They are read as the expression; brackets in them are not nested more deeply than there are lexemes. -/
  reads : ∀ {fuel withChoices stop more}, front.length ≤ fuel → endsExpression stop = true →
    Reads (expressionWithin fuel withChoices) (front ++ stop :: more) (· = e) (stop :: more)

lemma follows_of_endsExpression (h : endsExpression stop = true) : Follows (stop :: more) :=
  ⟨stop, more, rfl, followsOperand_of_endsExpression h⟩

lemma follows_sign {s : Text} (hs : s ≠ "=") : Follows (.sign s :: more) :=
  ⟨.sign s, more, rfl, decide_eq_true hs⟩

/-- Nothing is read behind a value in front of a lexeme that ends the expression. -/
lemma behindStep_of_endsExpression (h : endsExpression stop = true) :
    Reads (behindStep whole e) (stop :: more) (· = none) (stop :: more) := by
  have hdot : stop.isSign "." = false := isSign_of_endsExpression (by decide) h
  have hbracket : stop.isSign "[" = false := isSign_of_endsExpression (by decide) h
  have hparenthesis : stop.isSign "(" = false := isSign_of_endsExpression (by decide) h
  refine Reads.current.bind fun first hfirst => ?_
  simp only [hfirst, hdot, hbracket, hparenthesis, Bool.false_eq_true, if_false]
  exact .pure none

lemma exists_cons_of_leads (h : ∀ {rest}, Follows rest → Leads (front ++ rest)) :
    ∃ l tail, front = l :: tail ∧ leadsOperand l = true := by
  obtain ⟨l, l', others, hfront, hl, -⟩ := h ⟨.valueEnd, [], rfl, rfl⟩
  cases front with
  | nil => cases hfront
  | cons m tail => exact ⟨m, tail, rfl, (List.cons.inj hfront).1 ▸ hl⟩

theorem Written.of_operand (h : ∀ fuel, front.length ≤ fuel + 1 → Operand fuel front e) : Written front e where
  leads := (h front.length (Nat.le_succ _)).leads
  reads := by
    intro fuel withChoices stop more hfuel hstop
    obtain ⟨l, tail, rfl, hl⟩ := exists_cons_of_leads (h front.length (Nat.le_succ _)).leads
    cases fuel with
    | zero => cases hfuel
    | succ fuel =>
      obtain ⟨first, mid, hprimary, hbehind⟩ :=
        (h fuel hfuel).reads (follows_of_endsExpression hstop)
      refine reads_expressionWithin (hprimary.bind_eq ?_) hl hstop
      rw [behind_eq]
      exact reads_iterate (hbehind _ _ (.stop (behindStep_of_endsExpression hstop) rfl))

/-- The reader of expressions reads an expression that was written. -/
lemma Written.reads_expression (h : Written front e) (hstop : endsExpression stop = true) :
    Reads (expression withChoices) (front ++ stop :: more) (· = e) (stop :: more) := by
  intro u hu hlimit
  refine h.reads ?_ hstop hu hlimit
  rw [List.length_append] at hlimit
  omega

/-- A part without a comma behind it is no tuple. -/
lemma reads_tupleParts {α : Type} {isEnd : Lexeme → Bool} {part : Reader α} {P : α → Prop}
    (h : Reads part (l :: ls) P (stop :: more)) (hl : isTupleEnd isEnd l = false)
    (hstop : stop.isSign "," = false) (hless : more.length < ls.length) :
    Reads (tupleParts isEnd part) (l :: ls) (fun parts => ∃ a, parts = ([a], false) ∧ P a) (stop :: more) := by
  have hiterate : ∀ step, (∀ parts isTuple, step (parts, isTuple, false) = pure none) →
      Reads (step ([], false, true)) (l :: ls) (fun found => ∃ b, found = some b ∧ ∃ a, b = ([a], false, false) ∧ P a)
        (stop :: more) →
      Reads (iterate step ([], false, true)) (l :: ls) (fun parts => ∃ a, parts = ([a], false, false) ∧ P a)
        (stop :: more) := by
    intro step hend hfirst
    refine reads_iterate (.more hfirst (by simpa using hless) ?_)
    rintro b ⟨a, rfl, ha⟩
    exact .stop (by rw [hend]; exact .pure none) ⟨a, rfl, ha⟩
  refine (hiterate _ (fun _ _ => rfl) ?_).bind fun parts hparts => ?_
  · refine Reads.current.bind fun first hfirst => ?_
    simp only [hfirst, hl]
    refine h.bind fun a ha => Reads.current.bind fun first hfirst => ?_
    simp only [hfirst, hstop]
    exact (Reads.pure _).mono fun _ hb => ⟨_, hb, a, rfl, ha⟩
  · obtain ⟨a, rfl, ha⟩ := hparts
    exact (Reads.pure _).mono fun _ hb => ⟨a, hb, ha⟩

lemma isTupleEnd_of_leadsOperand {isEnd : Lexeme → Bool} (hl : leadsOperand l = true) (hend : isEnd l = false) :
    isTupleEnd isEnd l = false := by
  cases l with
  | sign s =>
    have hs : s = "\x7b" := of_decide_eq_true hl
    subst hs
    simpa [isTupleEnd, Lexeme.isSign] using hend
  | name n => simpa [isTupleEnd, Lexeme.isSign] using hend
  | string t => simpa [isTupleEnd, Lexeme.isSign] using hend
  | _ => cases hl

lemma Written.reads_expressions {isEnd : Lexeme → Bool} (h : Written front e) (hstop : endsExpression stop = true)
    (hcomma : stop.isSign "," = false) (hend : ∀ l ∈ front.head?, isEnd l = false) :
    Reads (expressions withChoices isEnd) (front ++ stop :: more) (· = e) (stop :: more) := by
  obtain ⟨l, tail, rfl, hl⟩ := exists_cons_of_leads h.leads
  have hread : Reads (expression withChoices) (l :: tail ++ stop :: more) (· = e) (stop :: more) :=
    h.reads_expression hstop
  have hless : more.length < (tail ++ stop :: more).length := by
    rw [List.length_append, List.length_cons]
    omega
  refine (reads_tupleParts hread (isTupleEnd_of_leadsOperand hl (hend l rfl)) hcomma hless).bind fun parts hparts => ?_
  obtain ⟨a, rfl, rfl⟩ := hparts
  exact .pure a

lemma isFault_of_leadsOperand (hl : leadsOperand l = true) : l.isFault = false := by
  cases l <;> first | rfl | cases hl

lemma isSign_of_leadsOperand {s : Text} (hs : s ≠ "\x7b") (hl : leadsOperand l = true) : l.isSign s = false := by
  cases l with
  | sign t =>
    have ht : t = "\x7b" := of_decide_eq_true hl
    exact decide_eq_false fun h => hs (h ▸ ht)
  | _ => rfl

lemma endsExpression_of_separates {close : Text} (hclose : close ∈ ([")", "]", "\x7d"] : List Text))
    (h : stop = .sign "," ∨ stop = .sign close) : endsExpression stop = true := by
  have hall : ∀ s ∈ ([")", "]", "\x7d"] : List Text), endsExpression (.sign s) = true := by decide
  rcases h with rfl | rfl
  · rfl
  · exact hall close hclose

/-- A list of operands begins with its first operand or with the closing sign. -/
lemma exists_cons_of_listed {fronts : List (List Lexeme)} (close : Text) (rest : List Lexeme)
    (h : ∀ front ∈ fronts, ∃ l tail, front = l :: tail ∧ leadsOperand l = true) :
    ∃ l tail, listed fronts ++ .sign close :: rest = l :: tail ∧ (leadsOperand l = true ∨ l = .sign close) := by
  cases fronts with
  | nil => exact ⟨_, _, rfl, .inr rfl⟩
  | cons front others =>
    obtain ⟨l, tail, rfl, hl⟩ := h front (.head _)
    exact ⟨l, _, rfl, .inl hl⟩

lemma isFault_of_listed {close : Text} (h : leadsOperand l = true ∨ l = .sign close) : l.isFault = false := by
  rcases h with h | rfl
  · exact isFault_of_leadsOperand h
  · rfl

/-- A key in brackets. -/
lemma reads_subscript {inner : List Lexeme} {key : Expr} (hkey : Written inner key) (hfuel : inner.length ≤ fuel)
    (hstop : endsExpression stop = true) (hcolon : stop.isSign ":" = false) :
    Reads (subscript (expressionWithin fuel)) (inner ++ stop :: more) (· = .key key) (stop :: more) := by
  obtain ⟨l, tail, rfl, hl⟩ := exists_cons_of_leads hkey.leads
  refine Reads.current.bind fun first hfirst => ?_
  rw [hfirst, isSign_of_leadsOperand (by decide) hl]
  refine (hkey.reads hfuel hstop).bind_eq ((Reads.takeIf_of_not hcolon).bind_eq ?_)
  exact .pure _

/-- An argument that is passed by its place. -/
lemma reads_argument {inner : List Lexeme} {value : Expr} {line : Nat} {before : List (Passing × Expr)}
    (hvalue : Written inner value) (hfuel : inner.length ≤ fuel) (hbefore : ∀ a ∈ before, a.1 = .placed)
    (hstop : endsExpression stop = true) :
    Reads (argument (expressionWithin fuel) line before) (inner ++ stop :: more) (· = (.placed, value))
      (stop :: more) := by
  have hany (test : Passing × Expr → Bool) (htest : ∀ e, test (.placed, e) = false) : before.any test = false := by
    rw [List.any_eq_false]
    rintro ⟨passing, e⟩ ha
    obtain rfl : passing = .placed := hbefore _ ha
    rw [htest]
    exact Bool.false_ne_true
  have hspread : before.any (fun a => a.1 = .spread) = false := hany _ fun _ => rfl
  have hspreadNamed : before.any (fun a => a.1 = .spreadNamed) = false := hany _ fun _ => rfl
  have hread : Reads (expressionWithin fuel true) (inner ++ stop :: more) (· = value) (stop :: more) :=
    hvalue.reads hfuel hstop
  obtain ⟨l, l', others, hfront, hl, hequals⟩ := hvalue.leads (follows_of_endsExpression hstop)
  rw [hfront] at hread ⊢
  refine Reads.current.bind fun first hfirst => ?_
  simp only [hfirst, isSign_of_leadsOperand (l := l) (s := "*") (by decide) hl,
    isSign_of_leadsOperand (l := l) (s := "**") (by decide) hl, hspread, hspreadNamed, Bool.false_eq_true, if_false]
  have hplaced := hread.bind_eq (f := fun e => pure (Passing.placed, e)) (.pure _)
  cases l with
  | name n =>
    refine Reads.next.bind_eq ?_
    rw [hequals]
    exact (Reads.ensure (congrArg (!·) (hany _ fun _ => rfl))).bind_eq hplaced
  | string t => exact (Reads.ensure (congrArg (!·) (hany _ fun _ => rfl))).bind_eq hplaced
  | sign s => exact (Reads.ensure (congrArg (!·) (hany _ fun _ => rfl))).bind_eq hplaced
  | _ => cases hl

/-- Arguments that are passed by their places, with their parentheses. -/
lemma reads_arguments {arguments : List (List Lexeme × Expr)} (hstop : stop.isFault = false)
    (h : ∀ x ∈ arguments, Written x.1 x.2 ∧ x.1.length ≤ fuel) :
    Reads (Reader.arguments (expressionWithin fuel))
      (.sign "(" :: (listed (arguments.map Prod.fst) ++ .sign ")" :: stop :: more))
      (· = arguments.map fun x => (.placed, x.2)) (stop :: more) := by
  have hleads : ∀ x ∈ arguments, ∃ l tail, x.1 = l :: tail ∧ leadsOperand l = true :=
    fun x hx => exists_cons_of_leads (h x hx).1.leads
  have hlist (line : Nat) := reads_listUntil ")" true (argument (expressionWithin fuel) line) (fun a => a.1 = .placed)
    (arguments.map fun x => (x.1, (Passing.placed, x.2))) more (by decide)
    ?_ ?_ ?_ hstop
  · refine Reads.current.bind fun first _ => ?_
    obtain ⟨m, tail, htail, hm⟩ := exists_cons_of_listed ")" (stop :: more)
      fun front hfront => by
        obtain ⟨x, hx, rfl⟩ := List.mem_map.mp hfront
        exact hleads x hx
    have hread := hlist first.line
    rw [List.map_map, List.map_map] at hread
    rw [htail]
    refine (Reads.expectSign "(" (isFault_of_listed hm)).bind_eq ?_
    rw [← htail]
    exact hread
  · intro x hx
    obtain ⟨y, hy, rfl⟩ := List.mem_map.mp hx
    rfl
  · intro x hx before hbefore s more hseparates
    obtain ⟨y, hy, rfl⟩ := List.mem_map.mp hx
    exact reads_argument (h y hy).1 (h y hy).2 hbefore (endsExpression_of_separates (by decide) hseparates)
  · intro x hx
    obtain ⟨y, hy, rfl⟩ := List.mem_map.mp hx
    obtain ⟨l, tail, hfront, hl⟩ := hleads y hy
    exact ⟨l, tail, hfront, isSign_of_leadsOperand (by decide) hl, isFault_of_leadsOperand hl⟩

/-- An entry of a dictionary. -/
lemma reads_entry {inner inner' : List Lexeme} {key value : Expr} (hkey : Written inner key)
    (hvalue : Written inner' value) (hfuel : (inner ++ .sign ":" :: inner').length ≤ fuel)
    (hstop : endsExpression stop = true) :
    Reads (entry (expressionWithin fuel)) (inner ++ .sign ":" :: (inner' ++ stop :: more)) (· = (key, value))
      (stop :: more) := by
  rw [List.length_append, List.length_cons] at hfuel
  obtain ⟨l, tail, rfl, hl⟩ := exists_cons_of_leads hvalue.leads
  refine (hkey.reads (by omega) rfl).bind_eq ?_
  refine (Reads.expectSign ":" (isFault_of_leadsOperand hl)).bind_eq ?_
  exact (hvalue.reads (by omega) hstop).bind_eq (.pure _)

lemma leads_entries {entries : List ((List Lexeme × Expr) × (List Lexeme × Expr))}
    (h : ∀ x ∈ entries, Written x.1.1 x.1.2 ∧ Written x.2.1 x.2.2 ∧ (x.1.1 ++ .sign ":" :: x.2.1).length ≤ fuel) :
    ∀ front ∈ entries.map (fun x => x.1.1 ++ .sign ":" :: x.2.1),
      ∃ l tail, front = l :: tail ∧ leadsOperand l = true := by
  intro front hfront
  obtain ⟨x, hx, rfl⟩ := List.mem_map.mp hfront
  obtain ⟨l, tail, hkey, hl⟩ := exists_cons_of_leads (h x hx).1.leads
  exact ⟨l, tail ++ .sign ":" :: x.2.1, by rw [hkey, List.cons_append], hl⟩

/-- A word stands for a constant or for a variable. -/
lemma reads_primary_word (n : Text) (hstop : stop.isFault = false) :
    Reads (primary whole) (.name n :: stop :: more) (· = (constant? n).elim (.name n) .literal) (stop :: more) := by
  refine Reads.current.bind fun first hfirst => ?_
  simp only [hfirst]
  refine (Reads.take hstop).bind fun _ _ => ?_
  cases constant? n <;> exact .pure _

lemma reads_primary_name {n : Text} (hconstant : constant? n = none) (hstop : stop.isFault = false) :
    Reads (primary whole) (.name n :: stop :: more) (· = .name n) (stop :: more) := by
  have hread : Reads (primary whole) (.name n :: stop :: more) (· = (constant? n).elim (.name n) .literal)
      (stop :: more) := reads_primary_word n hstop
  rwa [hconstant] at hread

namespace Operand

lemma word {n : Text} (hnot : n ≠ "not") : Operand fuel [.name n] ((constant? n).elim (.name n) .literal) where
  leads := by
    rintro _ ⟨l, more, rfl, hl⟩
    refine ⟨.name n, l, more, rfl, decide_eq_true hnot, ?_⟩
    cases l with
    | sign s => exact decide_eq_false (of_decide_eq_true hl)
    | _ => rfl
  reads := by
    rintro _ ⟨l, more, rfl, hl⟩
    exact ⟨_, _, reads_primary_word n (isFault_of_followsOperand hl), fun _ _ h => h⟩

lemma name {n : Text} (hconstant : constant? n = none) (hnot : n ≠ "not") : Operand fuel [.name n] (.name n) := by
  have hword : Operand fuel [.name n] ((constant? n).elim (.name n) .literal) := word hnot
  rwa [hconstant] at hword

lemma string (t : Text) : Operand fuel [.string t] (.literal (.text t)) where
  leads := by
    rintro _ ⟨l, more, rfl, hl⟩
    refine ⟨.string t, l, more, rfl, rfl, ?_⟩
    cases l with
    | sign s => exact decide_eq_false (of_decide_eq_true hl)
    | _ => rfl
  reads := by
    rintro _ ⟨l, more, rfl, hl⟩
    refine ⟨.literal (.text t), l :: more, Reads.current.bind fun first hfirst => ?_, fun _ _ h => h⟩
    simp only [hfirst]
    refine (Reads.take (isFault_of_followsOperand hl)).bind fun _ _ => ?_
    have hmore : Reads (moreStrings t) (l :: more) (· = t) (l :: more) := by
      refine reads_iterate_of_none (Reads.current.bind fun first hfirst => ?_)
      simp only [hfirst]
      cases l with
      | string _ => cases hl
      | _ => exact .pure none
    exact hmore.bind_eq (.pure _)

/-- An attribute behind an operand. -/
lemma member (h : Operand fuel front e) (n : Text) :
    Operand fuel (front ++ [.sign ".", .name n]) (.member e n) where
  leads := by
    intro rest _
    rw [List.append_assoc]
    exact h.leads (follows_sign (by decide))
  reads := by
    rintro _ ⟨l, more, rfl, hl⟩
    rw [List.append_assoc]
    obtain ⟨first, mid, hprimary, hbehind⟩ :=
      h.reads (show Follows ([.sign ".", .name n] ++ l :: more) from follows_sign (by decide))
    refine ⟨first, mid, hprimary, fun P rest' hrest => hbehind P rest' (.more_eq ?_ ?_ hrest)⟩
    · refine Reads.current.bind fun found hfound => ?_
      simp only [hfound, Lexeme.isSign, decide_true, if_true]
      refine (Reads.take rfl).bind fun _ _ => ?_
      refine Reads.bind_eq (a := Expr.member e n) ?_ (.pure _)
      refine (Reads.take (isFault_of_followsOperand hl)).bind fun part hpart => ?_
      simp only [hpart]
      exact .pure _
    · simp

/-- An item behind an operand. -/
lemma item {inner : List Lexeme} {key : Expr} (h : Operand fuel front e) (hkey : Written inner key)
    (hfuel : inner.length ≤ fuel) :
    Operand fuel (front ++ .sign "[" :: inner ++ [.sign "]"]) (.item e key) where
  leads := by
    intro rest _
    rw [List.append_assoc, List.append_assoc]
    exact h.leads (follows_sign (by decide))
  reads := by
    rintro _ ⟨l, more, rfl, hl⟩
    rw [List.append_assoc, List.append_assoc]
    obtain ⟨first, mid, hprimary, hbehind⟩ :=
      h.reads (show Follows (.sign "[" :: inner ++ ([.sign "]"] ++ l :: more)) from follows_sign (by decide))
    refine ⟨first, mid, hprimary, fun P rest' hrest => hbehind P rest' (.more_eq ?_ ?_ hrest)⟩
    · obtain ⟨m, tail, rfl, hm⟩ := exists_cons_of_leads hkey.leads
      refine Reads.current.bind fun found hfound => ?_
      have hdot : (Lexeme.sign "[").isSign "." = false := rfl
      have hbracket : (Lexeme.sign "[").isSign "[" = true := rfl
      simp only [hfound, hdot, hbracket, Bool.false_eq_true, if_false, if_true]
      refine (Reads.take (isFault_of_leadsOperand hm)).bind fun _ _ => ?_
      refine Reads.bind_eq (a := Expr.item e key) ?_ (.pure _)
      have hlist := reads_listUntil "]" false (fun _ => subscript (expressionWithin fuel)) (fun _ => True)
        [(m :: tail, Subscript.key key)] more (by decide) (by simp) ?_ ?_ (isFault_of_followsOperand hl)
      · simp only [List.map_cons, List.map_nil, listed, List.flatMap_nil, List.append_nil] at hlist
        exact hlist.bind_eq (.pure _)
      · rintro x hx before - stop more hseparates
        rw [List.mem_singleton] at hx
        subst hx
        refine reads_subscript hkey hfuel (endsExpression_of_separates (by decide) hseparates) ?_
        rcases hseparates with rfl | rfl <;> rfl
      · rintro x hx
        rw [List.mem_singleton] at hx
        subst hx
        exact ⟨m, tail, rfl, isSign_of_leadsOperand (by decide) hm, isFault_of_leadsOperand hm⟩
    · simp
      omega

/-- A call of an operand with arguments that are passed by their places. -/
lemma call (arguments : List (List Lexeme × Expr)) (h : Operand fuel front e)
    (harguments : ∀ x ∈ arguments, Written x.1 x.2 ∧ x.1.length ≤ fuel) :
    Operand fuel (front ++ .sign "(" :: listed (arguments.map Prod.fst) ++ [.sign ")"])
      (.call e (arguments.map fun x => (.placed, x.2))) where
  leads := by
    intro rest _
    rw [List.append_assoc, List.append_assoc]
    exact h.leads (follows_sign (by decide))
  reads := by
    rintro _ ⟨l, more, rfl, hl⟩
    rw [List.append_assoc, List.append_assoc]
    obtain ⟨first, mid, hprimary, hbehind⟩ := h.reads
      (show Follows (.sign "(" :: listed (arguments.map Prod.fst) ++ ([.sign ")"] ++ l :: more)) from
        follows_sign (by decide))
    refine ⟨first, mid, hprimary, fun P rest' hrest => hbehind P rest' (.more_eq ?_ ?_ hrest)⟩
    · refine Reads.current.bind fun found hfound => ?_
      have hdot : (Lexeme.sign "(").isSign "." = false := rfl
      have hbracket : (Lexeme.sign "(").isSign "[" = false := rfl
      have hparenthesis : (Lexeme.sign "(").isSign "(" = true := rfl
      simp only [hfound, hdot, hbracket, hparenthesis, Bool.false_eq_true, if_false, if_true]
      exact (reads_arguments (isFault_of_followsOperand hl) harguments).bind_eq (.pure _)
    · simp
      omega

/-- A dictionary. -/
lemma dict (entries : List ((List Lexeme × Expr) × (List Lexeme × Expr)))
    (hentries : ∀ x ∈ entries, Written x.1.1 x.1.2 ∧ Written x.2.1 x.2.2 ∧
      (x.1.1 ++ .sign ":" :: x.2.1).length ≤ fuel) :
    Operand fuel
      (.sign "\x7b" :: (listed (entries.map fun x => x.1.1 ++ .sign ":" :: x.2.1) ++ [.sign "\x7d"]))
      (.dict (entries.map fun x => (x.1.2, x.2.2))) where
  leads := by
    intro rest _
    obtain ⟨l, tail, hfront, hl⟩ := exists_cons_of_listed "\x7d" rest (leads_entries hentries)
    refine ⟨.sign "\x7b", l, tail, ?_, rfl, ?_⟩
    · rw [List.cons_append, List.append_assoc]
      exact congrArg _ hfront
    rcases hl with hl | rfl
    · exact isSign_of_leadsOperand (by decide) hl
    · rfl
  reads := by
    rintro _ ⟨l, more, rfl, hl⟩
    refine ⟨_, l :: more, ?_, fun _ _ h => h⟩
    rw [List.cons_append, List.append_assoc, List.singleton_append]
    refine Reads.current.bind fun first hfirst => ?_
    have hparenthesis : (Lexeme.sign "\x7b").isSign "(" = false := rfl
    have hbracket : (Lexeme.sign "\x7b").isSign "[" = false := rfl
    have hbrace : (Lexeme.sign "\x7b").isSign "\x7b" = true := rfl
    obtain ⟨m, tail, htail, hm⟩ := exists_cons_of_listed "\x7d" (l :: more) (leads_entries hentries)
    have hlist := reads_listUntil "\x7d" true (fun _ => entry (expressionWithin fuel)) (fun _ => True)
      (entries.map fun x => (x.1.1 ++ .sign ":" :: x.2.1, (x.1.2, x.2.2))) more (by decide)
      (by simp) ?_ ?_ (isFault_of_followsOperand hl)
    · simp only [hfirst, hparenthesis, hbracket, hbrace, Bool.false_eq_true, if_false, if_true]
      rw [List.map_map, List.map_map] at hlist
      rw [htail]
      refine (Reads.take (isFault_of_listed hm)).bind fun _ _ => ?_
      rw [← htail]
      exact hlist.bind_eq (.pure _)
    · intro x hx _ _ s more hseparates
      obtain ⟨y, hy, rfl⟩ := List.mem_map.mp hx
      obtain ⟨hkey, hvalue, hfuel⟩ := hentries y hy
      rw [List.append_assoc, List.cons_append]
      exact reads_entry hkey hvalue hfuel (endsExpression_of_separates (by decide) hseparates)
    · intro x hx
      obtain ⟨y, hy, rfl⟩ := List.mem_map.mp hx
      obtain ⟨l, tail, hfront, hl⟩ := exists_cons_of_leads (hentries y hy).1.leads
      exact ⟨l, tail ++ .sign ":" :: y.2.1, by simp [hfront], isSign_of_leadsOperand (by decide) hl,
        isFault_of_leadsOperand hl⟩

end Operand

end ComponentTags.Template.Reader
