/-
# Assignments of a `with`

A `with` statement gives values to its targets: names outside of all brackets, each in front of an equals
sign and first of all or behind a comma.  A keyword argument of a call in one of the values looks the
same from nearby if other arguments are in front of it, and the statement binds it, too
(`mem_statementBindings_with`).  Exactly the targets are bound where no such argument has a name of its own
(`statementBindings_with_iff`).
-/
import ComponentTags.Scope.Basic
import Mathlib.Tactic.Common

namespace ComponentTags

/-- Behind some tokens a name is given a value: it stands in front of an equals sign, and there are no
tokens in front of it or the last one is a comma. -/
def GivenBehind (name : Text) (front ts : List Token) : Prop :=
  (∃ behind, ts = front ++ ⟨.name, name⟩ :: ⟨.sign, ['=']⟩ :: behind) ∧
    front.getLast?.all (·.isSign ",") = true

/-- Some tokens close as many brackets as they open. -/
def Level (ts : List Token) : Prop := ts.countP Token.opens = ts.countP Token.closes

/-- A name is given a value outside of all brackets. -/
def IsTarget (name : Text) (ts : List Token) : Prop := ∃ front, GivenBehind name front ts ∧ Level front

/-- A name is given a value in brackets, behind a comma: it is an argument of a call, and not the first. -/
def IsLaterArgument (name : Text) (ts : List Token) : Prop :=
  ∃ front, GivenBehind name front ts ∧ ¬Level front

variable {name : Text} {t : Token} {ts rest front : List Token}

lemma Token.eq_of_isSign {sign : Text} (h : t.isSign sign = true) : t = ⟨.sign, sign⟩ := by
  obtain ⟨kind, text⟩ := t
  simpa [isSign] using h

lemma Token.eq_of_isName (h : t.isName = true) : t = ⟨.name, t.text⟩ := by
  obtain ⟨kind, text⟩ := t
  simpa [isName] using h

/-- The names in front of equals signs, behind a token `previous` if there is one. -/
lemma mem_assignmentTargets_iff {previous : Option Token} :
    name ∈ assignmentTargets previous ts ↔
      ∃ front behind, ts = front ++ ⟨.name, name⟩ :: ⟨.sign, ['=']⟩ :: behind ∧
        (front.getLast?.or previous).all (·.isSign ",") = true := by
  induction ts generalizing previous with
  | nil => simp [assignmentTargets]
  | cons t ts ih =>
    -- in front of a later name the last token is `t`, unless there are others behind it
    have hlater : name ∈ assignmentTargets (some t) ts ↔
        ∃ front behind, t :: ts = (t :: front) ++ ⟨.name, name⟩ :: ⟨.sign, ['=']⟩ :: behind ∧
          ((t :: front).getLast?.or previous).all (·.isSign ",") = true := by
      rw [ih]
      refine exists_congr fun front => exists_congr fun behind => and_congr ?_ ?_
      · rw [List.cons_append, List.cons.injEq, and_iff_right rfl]
      · rw [List.getLast?_cons, Option.some_or]
        cases front.getLast? <;> rfl
    have hcases : (∃ front behind, t :: ts = front ++ ⟨.name, name⟩ :: ⟨.sign, ['=']⟩ :: behind ∧
          (front.getLast?.or previous).all (·.isSign ",") = true) ↔
        (t = ⟨.name, name⟩ ∧ ts.head? = some ⟨.sign, ['=']⟩ ∧ previous.all (·.isSign ",") = true) ∨
          name ∈ assignmentTargets (some t) ts := by
      rw [hlater]
      constructor
      · rintro ⟨_ | ⟨u, front⟩, behind, hts, hcomma⟩
        · obtain ⟨rfl, rfl⟩ := List.cons.inj hts
          exact .inl ⟨rfl, rfl, hcomma⟩
        · obtain ⟨rfl, -⟩ := List.cons.inj hts
          exact .inr ⟨front, behind, hts, hcomma⟩
      · rintro (⟨rfl, hsign, hcomma⟩ | ⟨front, behind, hts, hcomma⟩)
        · obtain ⟨behind, rfl⟩ := List.head?_eq_some_iff.mp hsign
          exact ⟨[], behind, rfl, hcomma⟩
        · exact ⟨t :: front, behind, hts, hcomma⟩
    rw [hcases, assignmentTargets]
    split
    · rename_i hgiven
      simp only [Bool.and_eq_true, Option.any_eq_true] at hgiven
      obtain ⟨⟨hname, u, hu, hequals⟩, hcomma⟩ := hgiven
      rw [List.mem_cons, hu, Token.eq_of_isSign hequals, hcomma]
      refine or_congr_left ⟨?_, ?_⟩
      · rintro rfl
        exact ⟨Token.eq_of_isName hname, rfl, rfl⟩
      · rintro ⟨rfl, -⟩
        rfl
    · rename_i hno
      refine ⟨.inr, ?_⟩
      rintro (⟨rfl, hsign, hcomma⟩ | hmem)
      · exact absurd (by rw [hsign, hcomma]; rfl) hno
      · exact hmem

/-- A `with` statement binds the names that are given values outside of all brackets, and besides them the
keyword arguments in brackets that stand behind a comma.  Both are bound up to the end of the block. -/
theorem mem_statementBindings_with (h : statementTag? ts = some (("with" : Text), rest)) :
    (name ∈ statementBindings ts ↔ IsTarget name rest ∨ IsLaterArgument name rest) ∧
      ∀ s : Scope, s.afterStatement ts = s.push "endwith" (statementBindings ts) := by
  have hbindings : statementBindings ts = assignmentTargets none rest := by
    rw [statementBindings, h]
    rfl
  refine ⟨?_, fun s => ?_⟩
  · rw [hbindings, mem_assignmentTargets_iff, IsTarget, IsLaterArgument, ← exists_or]
    refine exists_congr fun front => ?_
    rw [← and_or_left, and_iff_left (em (Level front)), GivenBehind, exists_and_right, Option.or_none]
  · rw [hbindings, Scope.afterStatement, h]
    rfl

/-- A `with` statement binds exactly its targets if and only if every keyword argument behind another
argument has the name of a target. -/
theorem statementBindings_with_iff (h : statementTag? ts = some (("with" : Text), rest)) :
    (∀ name, name ∈ statementBindings ts ↔ IsTarget name rest) ↔
      ∀ name, IsLaterArgument name rest → IsTarget name rest := by
  refine forall_congr' fun name => ?_
  rw [(mem_statementBindings_with h).1]
  exact or_iff_left_iff_imp

/-- The keyword argument `b` is bound like the target `a`, because it stands behind a comma. -/
example : statementBindings (tokens " with a = f(1, b=2) ") = (["a", "b"] : List Text) := by
  decide +kernel

end ComponentTags
