/-
# Reading blocks

A flat block puts out text and values only (`Flat`).  It is read up to the tag that ends it, as the body of a
loop over a variable (`reads_loop`) or of a macro with one parameter (`reads_definition`), and a template that
consists of such statements is read up to its end (`exists_read_eq_ok`).
-/
import ComponentTags.Proofs.Template.Operands

namespace ComponentTags.Template

namespace Reader

variable {l stop : Lexeme} {ls more rest front : List Lexeme} {e : Expr} {fuel : Nat} {s : Surroundings}
  {ends : List Text} {tag : Text} {block : Text → Block} {statements : List Statement}

/-! ### Parts of a template -/

lemma reads_part_text {t : Text} (hstop : stop.isFault = false) :
    Reads (part? s ends block) (.data t :: stop :: more) (· = some (.text t)) (stop :: more) := by
  refine Reads.current.bind fun first hfirst => ?_
  simp only [hfirst]
  exact (Reads.take hstop).bind fun _ _ => .pure _

lemma reads_part_output (h : Written front e) (hstop : stop.isFault = false) :
    Reads (part? s ends block) (.valueBegin :: (front ++ .valueEnd :: stop :: more)) (· = some (.output e))
      (stop :: more) := by
  obtain ⟨l, tail, rfl, hl⟩ := exists_cons_of_leads h.leads
  refine Reads.current.bind fun first hfirst => ?_
  simp only [hfirst]
  refine (Reads.take (isFault_of_leadsOperand hl)).bind fun _ _ => ?_
  refine (h.reads_expressions rfl rfl fun _ _ => rfl).bind_eq ?_
  exact ((Reads.expect rfl hstop).bind fun _ _ => .pure ()).bind_eq (.pure _)

/-- A tag that ends the block is left to be taken. -/
lemma reads_part_end (htag : ends.contains tag = true) :
    Reads (part? s ends block) (.blockBegin :: .name tag :: more) (· = none) (.name tag :: more) := by
  refine Reads.current.bind fun first hfirst => ?_
  simp only [hfirst]
  refine (Reads.take rfl).bind fun _ _ => Reads.current.bind fun first hfirst => ?_
  simp only [hfirst, htag]
  exact .pure _

lemma reads_part_finish : Reads (part? s ends block) (.finish :: more) (· = none) (.finish :: more) := by
  refine Reads.current.bind fun first hfirst => ?_
  simp only [hfirst]
  exact .pure _

/-! ### Flat blocks -/

/-- The lexemes of a block that puts out text and values only. -/
inductive Flat : List Lexeme → List Statement → Prop
  | nil : Flat [] []
  | text (t : Text) {ls : List Lexeme} {statements : List Statement} (h : Flat ls statements) :
      Flat (.data t :: ls) (.text t :: statements)
  | value {front ls : List Lexeme} {e : Expr} {statements : List Statement} (he : Written front e)
      (h : Flat ls statements) : Flat (.valueBegin :: (front ++ .valueEnd :: ls)) (.output e :: statements)

/-- The step of the loop that reads the parts of a block, the last part first. -/
def partStep (s : Surroundings) (ends : List Text) (block : Text → Block) (parts : List Statement) :
    Reader (Option (List Statement)) := do
  return (← part? s ends block).map (· :: parts)

lemma partStep_some {parts : List Statement} {P : Statement → Prop}
    (h : Reads (part? s ends block) ls (fun part => ∃ st, part = some st ∧ P st) rest) :
    Reads (partStep s ends block parts) ls (fun found => ∃ b, found = some b ∧ ∃ st, b = st :: parts ∧ P st)
      rest := by
  refine h.bind fun part hpart => ?_
  obtain ⟨st, rfl, hst⟩ := hpart
  exact (Reads.pure _).mono fun _ hfound => ⟨st :: parts, hfound, st, rfl, hst⟩

lemma Flat.isFault_append (h : Flat ls statements) (hstop : stop.isFault = false) :
    ∃ l tail, ls ++ stop :: more = l :: tail ∧ l.isFault = false := by
  cases h with
  | nil => exact ⟨_, _, rfl, hstop⟩
  | text t h => exact ⟨_, _, rfl, rfl⟩
  | value he h => exact ⟨_, _, rfl, rfl⟩

/-- The parts of a flat block are read one after the other. -/
lemma Flat.iterates {parts : List Statement} {P : List Statement → Prop} (h : Flat ls statements)
    (hstop : stop.isFault = false)
    (hrest : Iterates (partStep s ends block) (statements.reverse ++ parts) (stop :: more) P rest) :
    Iterates (partStep s ends block) parts (ls ++ stop :: more) P rest := by
  induction h generalizing parts with
  | nil => exact hrest
  | @text t ls statements h ih =>
    obtain ⟨l, tail, htail, hl⟩ := h.isFault_append hstop
    have hpart : Reads (part? s ends block) (.data t :: l :: tail) (· = some (.text t)) (l :: tail) :=
      reads_part_text hl
    rw [List.cons_append]
    refine .more_eq (b := .text t :: parts) ?_ (by simp) (ih (by simpa using hrest))
    rw [htail]
    exact hpart.bind_eq (.pure _)
  | @value front ls e statements he h ih =>
    obtain ⟨l, tail, htail, hl⟩ := h.isFault_append hstop
    have hpart : Reads (part? s ends block) (.valueBegin :: (front ++ .valueEnd :: l :: tail)) (· = some (.output e))
        (l :: tail) := reads_part_output he hl
    rw [List.cons_append, List.append_assoc, List.cons_append]
    refine .more_eq (b := .output e :: parts) ?_ (by simp; omega) (ih (by simpa using hrest))
    rw [htail]
    exact hpart.bind_eq (.pure _)

/-- The reader of the blocks that stand in a block. -/
def innerBlock (fuel : Nat) (s : Surroundings) (tag : Text) (ends : List Text) : Reader (List Statement) := do
  let inside := { s with tags := tag :: s.tags }
  let _ ← takeIf (Lexeme.isSign ":")
  expectBlockEnd
  let body ← statementsWithin fuel inside ends
  match (← current).lexeme with
  | .finish => reject ({ inside with ends := ends :: inside.ends }.complaint none)
  | _ => return body

lemma statementsWithin_succ (fuel : Nat) (s : Surroundings) (ends : List Text) :
    statementsWithin (fuel + 1) s ends = (do
      let inner := if ends.isEmpty then s else { s with ends := ends :: s.ends }
      let parts ← iterate (partStep inner ends (innerBlock fuel inner)) []
      return parts.reverse) := rfl

/-- A flat block is read up to the tag that ends it. -/
lemma Flat.reads_innerBlock (h : Flat ls statements) (htag : ends.contains tag = true) {opener : Text} :
    Reads (innerBlock (fuel + 1) s opener ends) (.blockEnd :: (ls ++ .blockBegin :: .name tag :: more))
      (· = statements) (.name tag :: more) := by
  obtain ⟨l, tail, htail, hl⟩ := h.isFault_append (show Lexeme.blockBegin.isFault = false from rfl)
  rw [htail]
  refine (Reads.takeIf_of_not rfl).bind_eq ?_
  refine ((Reads.expect rfl hl).bind fun _ _ => .pure ()).bind_eq ?_
  rw [← htail]
  have hbody : Reads (statementsWithin (fuel + 1) { s with tags := opener :: s.tags } ends)
      (ls ++ .blockBegin :: .name tag :: more) (· = statements) (.name tag :: more) := by
    have hparts (inner : Surroundings) (block : Text → Block) : Reads (iterate (partStep inner ends block) [])
        (ls ++ .blockBegin :: .name tag :: more) (· = statements.reverse) (.name tag :: more) :=
      reads_iterate (h.iterates rfl (.stop ((reads_part_end htag).bind_eq (.pure _)) (List.append_nil _)))
    rw [statementsWithin_succ]
    refine (hparts _ _).bind_eq ?_
    exact (Reads.pure _).mono fun _ hb => by rw [hb, List.reverse_reverse]
  refine hbody.bind_eq (Reads.current.bind fun first hfirst => ?_)
  simp only [hfirst]
  exact .pure _

/-! ### Statements -/

/-- A variable as a target. -/
lemma reads_target {isEnd : Lexeme → Bool} {n : Text} (hconstant : constant? n = none) (hnot : n ≠ "not")
    (hend : isEnd (.name n) = false) (hstop : stop.isFault = false) (hcomma : stop.isSign "," = false) :
    Reads (target false isEnd) (.name n :: stop :: more) (fun t => ∃ line, t = .name n line) (stop :: more) := by
  have hpart : Reads (targetPart false) (.name n :: stop :: more) (fun t => ∃ line, t = .ok (.name n line))
      (stop :: more) := by
    refine Reads.current.bind fun first _ => (reads_primary_name hconstant hstop).bind_eq ?_
    refine Reads.current.bind fun _ _ => ?_
    simp only [Bool.false_and, Bool.false_eq_true, if_false]
    exact (Reads.pure _).mono fun _ ht => ⟨first.line, ht⟩
  have hleads : isTupleEnd isEnd (.name n) = false := isTupleEnd_of_leadsOperand (decide_eq_true hnot) hend
  refine Reads.current.bind fun first _ => (reads_tupleParts hpart hleads hcomma (by simp)).bind fun parts hparts => ?_
  obtain ⟨_, rfl, line, rfl⟩ := hparts
  exact (Reads.pure _).mono fun _ ht => ⟨line, ht⟩

/-- A statement is read from its tag to the end of its span. -/
lemma reads_part_statement {P : Statement → Prop} (hends : ends.contains tag = false) (hstop : stop.isFault = false)
    (h : Reads (statement s block) (.name tag :: ls) P (.blockEnd :: stop :: more)) :
    Reads (part? s ends block) (.blockBegin :: .name tag :: ls) (fun part => ∃ st, part = some st ∧ P st)
      (stop :: more) := by
  refine Reads.current.bind fun first hfirst => ?_
  simp only [hfirst]
  refine (Reads.take rfl).bind fun _ _ => Reads.current.bind fun first hfirst => ?_
  simp only [hfirst, hends, Bool.false_eq_true, if_false]
  refine h.bind fun st hst => ?_
  refine ((Reads.expect rfl hstop).bind fun _ _ => .pure ()).bind_eq ?_
  exact (Reads.pure _).mono fun _ hpart => ⟨st, hpart, hst⟩

/-- The lexemes of a loop over the items of a variable. -/
def loopLexemes (target items : Text) (body : List Lexeme) : List Lexeme :=
  [.blockBegin, .name "for", .name target, .name "in", .name items, .blockEnd] ++ body ++
    [.blockBegin, .name "endfor", .blockEnd]

lemma reads_loop {v items : Text} (hbody : Flat ls statements) (hv : constant? v = none ∧ v ≠ "not" ∧ v ≠ "in")
    (hitems : constant? items = none ∧ items ≠ "not" ∧ items ≠ "recursive") (hends : ends.contains "for" = false)
    (hstop : stop.isFault = false) :
    Reads (part? s ends (innerBlock (fuel + 1) s)) (loopLexemes v items ls ++ stop :: more)
      (fun part => ∃ st, part = some st ∧ ∃ line, st = .loop (.name v line) (.name items) [] statements [])
      (stop :: more) := by
  have hwritten : Written [.name items] (.name items) := .of_operand fun _ _ => .name hitems.1 hitems.2.1
  have hrest : Reads (loopRest (innerBlock (fuel + 1) s "for"))
      (.name v :: .name "in" :: .name items :: .blockEnd :: (ls ++ .blockBegin :: .name "endfor" :: .blockEnd ::
        stop :: more))
      (fun st => ∃ line, st = .loop (.name v line) (.name items) [] statements [])
      (.blockEnd :: stop :: more) := by
    refine (reads_target hv.1 hv.2.1 (decide_eq_false hv.2.2) rfl rfl).bind fun t ht => ?_
    obtain ⟨line, rfl⟩ := ht
    refine (Reads.expect rfl rfl).bind fun _ _ => ?_
    refine (hwritten.reads_expressions rfl rfl ?_).bind_eq ?_
    · rintro l hl
      cases hl
      exact decide_eq_false hitems.2.2
    refine (Reads.takeIf_of_not rfl).bind_eq ?_
    refine (Reads.pure _).bind_eq ((Reads.takeIf_of_not rfl).bind_eq ?_)
    refine (hbody.reads_innerBlock (by decide)).bind_eq ?_
    refine (Reads.take rfl).bind fun word hword => ?_
    rw [hword]
    exact (Reads.pure _).bind_eq ((Reads.pure _).mono fun _ hst => ⟨line, hst⟩)
  have htext : loopLexemes v items ls ++ stop :: more = .blockBegin :: .name "for" :: .name v :: .name "in" ::
      .name items :: .blockEnd :: (ls ++ .blockBegin :: .name "endfor" :: .blockEnd :: stop :: more) := by
    simp [loopLexemes]
  rw [htext]
  refine reads_part_statement hends hstop (Reads.current.bind fun first hfirst => ?_)
  simp only [hfirst]
  exact (Reads.take rfl).bind fun _ _ => hrest

/-- The lexemes of a macro with one parameter. -/
def macroLexemes (name parameter : Text) (body : List Lexeme) : List Lexeme :=
  [.blockBegin, .name "macro", .name name, .sign "(", .name parameter, .sign ")", .blockEnd] ++ body ++
    [.blockBegin, .name "endmacro", .blockEnd]

lemma reads_targetName {n : Text} (hconstant : constant? n = none) (hstop : stop.isFault = false) :
    Reads targetName (.name n :: stop :: more) (· = n) (stop :: more) := by
  have hname : Reads expectName (.name n :: stop :: more) (fun found => found.1 = n) (stop :: more) := by
    refine (Reads.expect rfl hstop).bind fun first hfirst => ?_
    simp only [hfirst]
    exact (Reads.pure _).mono fun _ hfound => by rw [hfound]
  refine hname.bind fun found hfound => ?_
  obtain ⟨m, line⟩ := found
  have hm : m = n := hfound
  subst hm
  simp only [hconstant]
  exact .pure _

/-- A parameter without a default behind others without defaults. -/
lemma reads_parameter {n : Text} {before : List Parameter} (hbefore : ∀ p ∈ before, p.default = none)
    (hconstant : constant? n = none) (hstop : stop.isFault = false) (hequals : stop.isSign "=" = false) :
    Reads (parameter before) (.name n :: stop :: more) (· = ⟨n, none⟩) (stop :: more) := by
  have hnone : before.any (fun p => p.default.isSome) = false := by
    rw [List.any_eq_false]
    exact fun p hp => by simp [hbefore p hp]
  refine (reads_targetName hconstant hstop).bind_eq ((Reads.takeIf_of_not hequals).bind_eq ?_)
  rw [hnone]
  exact .pure _

lemma reads_definition {n parameter : Text} (hbody : Flat ls statements) (hn : constant? n = none)
    (hparameter : constant? parameter = none) (hends : ends.contains "macro" = false)
    (hstop : stop.isFault = false) :
    Reads (part? s ends (innerBlock (fuel + 1) s)) (macroLexemes n parameter ls ++ stop :: more)
      (fun part => ∃ st, part = some st ∧ ∃ line, st = .define n [⟨parameter, none⟩] statements line)
      (stop :: more) := by
  have htext : macroLexemes n parameter ls ++ stop :: more = .blockBegin :: .name "macro" :: .name n :: .sign "(" ::
      .name parameter :: .sign ")" :: .blockEnd ::
        (ls ++ .blockBegin :: .name "endmacro" :: .blockEnd :: stop :: more) := by
    simp [macroLexemes]
  have hrest (line : Nat) : Reads (macroRest (innerBlock (fuel + 1) s "macro") line)
      (.name n :: .sign "(" :: .name parameter :: .sign ")" :: .blockEnd ::
        (ls ++ .blockBegin :: .name "endmacro" :: .blockEnd :: stop :: more))
      (· = .define n [⟨parameter, none⟩] statements line) (.blockEnd :: stop :: more) := by
    refine (reads_targetName hn rfl).bind_eq ((Reads.expectSign "(" rfl).bind_eq ?_)
    have hlist := reads_listUntil ")" false Reader.parameter (fun p => p.default = none)
      [([.name parameter], ⟨parameter, none⟩)]
      (ls ++ .blockBegin :: .name "endmacro" :: .blockEnd :: stop :: more) (by decide) (by simp) ?_ ?_
      (show Lexeme.blockEnd.isFault = false from rfl)
    · refine hlist.bind_eq ?_
      refine Reads.bind_eq (a := statements) ?_ (.pure _)
      refine (hbody.reads_innerBlock (by decide)).bind_eq ?_
      exact (Reads.take rfl).bind fun _ _ => .pure _
    · rintro x hx before hbefore s more hseparates
      rw [List.mem_singleton] at hx
      subst hx
      have hstop : s.isFault = false ∧ s.isSign "=" = false := by
        rcases hseparates with rfl | rfl <;> exact ⟨rfl, rfl⟩
      exact reads_parameter hbefore hparameter hstop.1 hstop.2
    · rintro x hx
      rw [List.mem_singleton] at hx
      subst hx
      exact ⟨_, _, rfl, rfl, rfl⟩
  rw [htext]
  refine reads_part_statement hends hstop (Reads.current.bind fun first hfirst => ?_)
  simp only [hfirst]
  refine (Reads.take rfl).bind fun _ _ => ?_
  exact (hrest first.line).mono fun _ hst => ⟨first.line, hst⟩

end Reader

/-! ### Whole templates -/

open Reader

variable {template : Text} {l : Lexeme} {ls : List Lexeme} {P : List Statement → Prop}

/-- A template is read by the parts that it consists of. -/
theorem exists_read_eq_ok (d : Delimiters) (hlexemes : (lexemes d template).map Placed.lexeme = l :: ls)
    (hl : l.isFault = false)
    (h : Iterates (partStep {} [] (innerBlock (ls.length + 1) {})) [] (l :: ls) (P ∘ List.reverse) [.finish]) :
    ∃ statements, read d template = .ok statements ∧ P statements := by
  have hreader : Reader.Reads (do
      Reader.settle
      Reader.statementsWithin (ls.length + 1 + 1) {} []) (l :: ls) P [.finish] := by
    refine (Reads.settle hl).bind_eq ?_
    rw [statementsWithin_succ]
    refine (reads_iterate h).bind fun parts hparts => ?_
    exact (Reads.pure _).mono fun _ hb => hb ▸ hparts
  have hlength : (lexemes d template).length = ls.length + 1 := by
    rw [← List.length_map (f := Placed.lexeme), hlexemes, List.length_cons]
  obtain ⟨statements, u, hread, hstatements, -⟩ := hreader (u := ⟨lexemes d template, ls.length + 1 + 1⟩) hlexemes
    (Nat.lt_succ_self _)
  refine ⟨statements, ?_, hstatements⟩
  simp only [read, StateT.run, hlength]
  rw [hread]
  rfl

end ComponentTags.Template
