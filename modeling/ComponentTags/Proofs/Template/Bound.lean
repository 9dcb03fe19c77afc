/-
# Names that templates bind

What a block sets is bound by the statements in it, and these names are among those that the template is said
to bind.
-/
import ComponentTags.Proofs.Table
import ComponentTags.Template.Call

namespace ComponentTags.Template

/-! ### Bound names -/

/-- The names that a statement binds, itself or in a block of it. -/
def Statement.bound (st : Statement) : List Text := st.mentions.flatMap Mention.bound

/-- The names that several statements bind. -/
def boundAll (body : List Statement) : List Text := (mentionsAll body).flatMap Mention.bound

/-- The names that other cases of a choice bind. -/
def boundCases (others : List (Expr × List Statement)) : List Text :=
  (mentionsOfCases others).flatMap Mention.bound

section

variable {n m : Text} {st : Statement} {body otherwise : List Statement} {target : Target} {value condition : Expr}
  {others : List (Expr × List Statement)}

lemma boundAll_cons : boundAll (st :: body) = st.bound ++ boundAll body := by
  rw [boundAll, mentionsAll, List.flatMap_append]
  rfl

lemma bound_binds {names : List Text} : (names.map Mention.binds).flatMap Mention.bound = names := by
  simp [List.flatMap_map, Mention.bound]

lemma mem_bound_set (h : n ∈ target.names) : n ∈ (Statement.set target value).bound := by
  rw [Statement.bound, Statement.mentions, List.flatMap_append, bound_binds]
  exact List.mem_append_left _ h

lemma mem_bound_setBlock {filters : List BlockFilter} (h : n ∈ target.names ∨ n ∈ boundAll body) :
    n ∈ (Statement.setBlock target filters body).bound := by
  rw [Statement.bound, Statement.mentions, List.flatMap_append, List.flatMap_append, bound_binds]
  simp only [List.mem_append]
  exact h.imp_left .inl

lemma mem_bound_choice (h : n ∈ boundAll body ∨ n ∈ boundCases others ∨ n ∈ boundAll otherwise) :
    n ∈ (Statement.choice condition body others otherwise).bound := by
  simp only [Statement.bound, Statement.mentions, List.flatMap_append, List.mem_append]
  rcases h with h | h | h
  exacts [.inl (.inl (.inr h)), .inl (.inr h), .inr h]

lemma mem_boundCases_cons (h : n ∈ boundAll body ∨ n ∈ boundCases others) :
    n ∈ boundCases ((condition, body) :: others) := by
  simp only [boundCases, mentionsOfCases, List.flatMap_append, List.mem_append]
  exact h.imp_left .inr

lemma mem_bound_loop {items : Expr} {conditions : List Expr}
    (h : n = loopName ∨ n ∈ target.names ∨ n ∈ boundAll body ∨ n ∈ boundAll otherwise) :
    n ∈ (Statement.loop target items conditions body otherwise).bound := by
  simp only [Statement.bound, Statement.mentions, List.cons_append, List.flatMap_cons, List.flatMap_append,
    bound_binds, Mention.bound, List.nil_append, List.mem_cons, List.mem_append]
  rcases h with h | h | h | h
  exacts [.inl h, .inr (.inl (.inl (.inl (.inl h)))), .inr (.inl (.inl (.inr h))), .inr (.inl (.inr h))]

lemma mem_bound_scope {assignments : List (Target × Expr)}
    (h : n ∈ namesOfAll (assignments.map Prod.fst) ∨ n ∈ boundAll body) :
    n ∈ (Statement.scope assignments body).bound := by
  rw [Statement.bound, Statement.mentions, List.flatMap_append, List.flatMap_append, bound_binds]
  simp only [List.mem_append]
  exact h.imp_left .inl

lemma isBlock_iff {parameters : List Parameter} :
    isBlock parameters = true ↔ parameters = [⟨contextName, none⟩] := by
  unfold isBlock
  split
  · simp
  · next hother =>
    refine iff_of_false Bool.false_ne_true ?_
    rintro rfl
    exact hother _ rfl

lemma mem_bound_define {parameters : List Parameter} {line : Nat}
    (h : n = m ∨ n ∈ parameters.map Parameter.name ∨
      n ∈ specialsOf (parameters.map Parameter.name) (mentionsAll body) ∨ n ∈ boundAll body) :
    n ∈ (Statement.define m parameters body line).bound := by
  have hgives (names : List Text) : (names.map Mention.gives).flatMap Mention.bound = names := by
    simp [List.flatMap_map, Mention.bound]
  simp only [Statement.bound, Statement.mentions, List.cons_append, List.flatMap_cons, List.flatMap_append,
    hgives, List.mem_append]
  rcases h with rfl | h | h | h
  · left
    cases isBlock parameters <;> simp [Mention.bound]
  · cases hblock : isBlock parameters with
    | true =>
      rw [isBlock_iff.mp hblock, List.map_singleton, List.mem_singleton] at h
      simp [Mention.bound, h]
    | false =>
      refine .inr (.inl (.inl ?_))
      rw [if_neg Bool.false_ne_true, mentionsOfParameters, ← List.map_map, List.flatMap_append, bound_binds]
      exact List.mem_append_left _ h
  · exact .inr (.inl (.inr h))
  · exact .inr (.inr h)

end

/-! ### Names that blocks set -/

namespace Names

variable {outer : List Text} {s : Names} {n m : Text}

lemma mem_keys_store (h : n ∈ (s.store outer m).set.keys) : n ∈ s.set.keys ∨ n = m := by
  unfold store at h
  split at h
  · exact .inl h
  · exact Table.mem_keys_set.mp h

mutual

lemma mem_keys_target : ∀ (t : Target) {s : Names}, n ∈ (s.target outer t).set.keys →
    n ∈ s.set.keys ∨ n ∈ t.names
  | .name m _, s, h => by simpa [Target.names] using mem_keys_store h
  | .tuple parts, s, h => mem_keys_targets parts h
  | .member .., s, h => .inl h

lemma mem_keys_targets : ∀ (ts : List Target) {s : Names}, n ∈ (s.targets outer ts).set.keys →
    n ∈ s.set.keys ∨ n ∈ namesOfAll ts
  | [], s, h => .inl h
  | t :: rest, s, h => by
    rw [namesOfAll, List.mem_append, ← or_assoc]
    exact (mem_keys_targets rest h).imp_left (mem_keys_target t)

end

/-- After a choice, names are set that were set before or in one of the branches. -/
lemma mem_keys_merge {branches : List Names} (h : n ∈ (s.merge branches).set.keys) :
    n ∈ s.set.keys ∨ ∃ b ∈ branches, n ∈ b.set.keys := by
  have hfold : ∀ (names : List Text) (t : Table Text Bool),
      n ∈ (names.foldl (fun t m => if Table.has m t then t else Table.set m true t) t).keys →
      n ∈ t.keys ∨ n ∈ names := by
    intro names
    induction names with
    | nil => exact fun t h => .inl h
    | cons m rest ih =>
      intro t h
      rcases ih _ h with h | h
      · dsimp only at h
        split at h
        · exact .inl h
        · rw [Table.mem_keys_set] at h
          rcases h with h | rfl
          · exact .inl h
          · exact .inr List.mem_cons_self
      · exact .inr (List.mem_cons_of_mem _ h)
  rcases hfold _ _ h with h | h
  · exact .inl h
  · exact .inr (List.mem_flatMap.mp h)

mutual

lemma mem_keys_statement : ∀ (st : Statement) {s : Names}, n ∈ (s.statement outer st).set.keys →
    n ∈ s.set.keys ∨ n ∈ st.bound
  | .text _, s, h => .inl h
  | .output _, s, h => .inl h
  | .set t value, s, h => (mem_keys_target t (s := s.read value.names) h).imp_right mem_bound_set
  | .setBlock t _ body, s, h => (mem_keys_target t h).imp_right fun h => mem_bound_setBlock (.inl h)
  | .choice condition body others otherwise, s, h => by
    rcases mem_keys_merge h with h | ⟨b, hb, h⟩
    · exact .inl h
    · simp only [List.mem_cons, List.not_mem_nil, or_false] at hb
      rcases hb with rfl | rfl | rfl
      · exact (mem_keys_statements body h).imp_right fun h => mem_bound_choice (.inl h)
      · exact (mem_keys_cases others h).imp_right fun h => mem_bound_choice (.inr (.inl h))
      · exact (mem_keys_statements otherwise h).imp_right fun h => mem_bound_choice (.inr (.inr h))
  | .loop .., s, h => .inl h
  | .scope .., s, h => .inl h
  | .define m _ _ _, s, h => by
    rcases mem_keys_store h with h | rfl
    · exact .inl h
    · exact .inr (mem_bound_define (.inl rfl))

/-- The names that statements set are set before or bound by one of them. -/
lemma mem_keys_statements : ∀ (body : List Statement) {s : Names},
    n ∈ (s.statements outer body).set.keys → n ∈ s.set.keys ∨ n ∈ boundAll body
  | [], s, h => .inl h
  | st :: rest, s, h => by
    rw [boundAll_cons, List.mem_append, ← or_assoc]
    exact (mem_keys_statements rest h).imp_left (mem_keys_statement st)

lemma mem_keys_cases : ∀ (others : List (Expr × List Statement)) {s : Names},
    n ∈ (s.cases outer others).set.keys → n ∈ s.set.keys ∨ n ∈ boundCases others
  | [], s, h => .inl h
  | (condition, body) :: rest, s, h => by
    rcases mem_keys_cases rest h with h | h
    · rcases mem_keys_merge h with h | ⟨b, hb, h⟩
      · exact .inl h
      · rw [List.mem_singleton.mp hb] at h
        exact (mem_keys_statements (s := s.read condition.names) body h).imp_right fun h =>
          mem_boundCases_cons (.inl h)
    · exact .inr (mem_boundCases_cons (.inr h))

end

lemma mem_keys_ofParameters {parameters : List Text} (h : n ∈ (ofParameters parameters).set.keys) :
    n ∈ parameters := by
  have h : n ∈ (Table.setAll [] (parameters.map fun n => (n, false))).keys := h
  rw [Table.mem_keys_setAll] at h
  simpa [Table.keys] using h

end Names

lemma mem_keys_blockNames {outer parameters : List Text} {body : List Statement} {n : Text}
    (h : n ∈ (blockNames outer parameters body).set.keys) : n ∈ parameters ∨ n ∈ boundAll body :=
  (Names.mem_keys_statements body h).imp_left Names.mem_keys_ofParameters

end ComponentTags.Template
