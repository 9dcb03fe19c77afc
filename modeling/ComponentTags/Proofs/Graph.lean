/-
# Both ends of a graph

A graph keeps for every template the names it waits for and for every name the templates that wait
for it.  The two tables always tell the same: the templates that wait for a name are those that have
it among their names, in the order in which they began to wait (`Consistent`).  Every change of a graph
keeps them so, and so does every sequence of calls, whether they fail or not (`ends_agree`).
-/
import ComponentTags.Graph
import ComponentTags.Proofs.Table

namespace ComponentTags.Graph

variable {g : Graph} {template other name : Text} {names : List Text}
  {waiting : Table Text (List Text)}

/-! ### Names of a template -/

lemma pendingOf_discard :
    (g.discard template).pendingOf other = if other = template then [] else g.pendingOf other := by
  by_cases h : other = template
  · subst h
    rw [if_pos rfl, pendingOf, discard, Table.get?_erase_self]
    rfl
  · rw [if_neg h, pendingOf, discard, Table.get?_erase_of_ne (Ne.symm h), pendingOf]

/-- A template waits for the names it was last said to wait for, each once. -/
lemma pendingOf_setPending :
    (g.setPending template names).pendingOf other =
      if other = template then names.eraseDups else g.pendingOf other := by
  unfold setPending
  cases hnames : names.eraseDups with
  | nil => exact pendingOf_discard
  | cons first rest =>
    by_cases h : other = template
    · subst h
      rw [if_pos rfl, pendingOf, Table.get?_set_self]
      rfl
    · rw [if_neg h, pendingOf, Table.get?_set, if_neg (Ne.symm h), ← pendingOf, pendingOf_discard,
        if_neg h]

/-- What several templates wait for after a change, if they are told apart. -/
lemma pendingOf_setAllPending {results : Table Text (List Text)} (h : results.keys.Nodup) :
    (g.setAllPending results).pendingOf other =
      ((results.get? other).map List.eraseDups).getD (g.pendingOf other) := by
  induction results generalizing g with
  | nil => rfl
  | cons result rest ih =>
    -- nothing behind the first result is about its template
    obtain ⟨t, ns⟩ := result
    have hnodup : t ∉ Table.keys rest ∧ (Table.keys rest).Nodup := List.nodup_cons.mp h
    have hrest := @ih (g.setPending t ns) hnodup.2
    rw [pendingOf_setPending] at hrest
    refine hrest.trans ?_
    by_cases ht : other = t
    · subst ht
      simp [Table.get?, Table.get?_eq_none_iff.mpr hnodup.1]
    · simp [Table.get?, ht, Ne.symm ht]

/-! ### Templates of a name -/

/-- The templates that wait for a name, in one of the tables of a graph. -/
def waitersOf (waiting : Table Text (List Text)) (name : Text) : List Text :=
  (waiting.get? name).getD []

lemma waitersOf_release :
    waitersOf (release template waiting name) other =
      if other = name then (waitersOf waiting other).filter (· ≠ template)
      else waitersOf waiting other := by
  unfold release waitersOf
  cases hget : waiting.get? name with
  | none =>
    dsimp only
    by_cases h : other = name
    · rw [if_pos h, h, hget]
      rfl
    · rw [if_neg h]
  | some templates =>
    dsimp only
    by_cases h : other = name
    · rw [if_pos h, h, hget, Option.getD_some]
      cases templates.filter (· ≠ template) with
      | nil => rw [Table.get?_erase_self, Option.getD_none]
      | cons first rest => rw [Table.get?_set_self, Option.getD_some]
    · rw [if_neg h]
      cases templates.filter (· ≠ template) with
      | nil => rw [Table.get?_erase_of_ne (Ne.symm h)]
      | cons first rest => rw [Table.get?_set, if_neg (Ne.symm h)]

lemma waitersOf_foldl_release :
    waitersOf (names.foldl (release template) waiting) name =
      if name ∈ names then (waitersOf waiting name).filter (· ≠ template)
      else waitersOf waiting name := by
  induction names generalizing waiting with
  | nil => rfl
  | cons first rest ih =>
    rw [List.foldl_cons, ih, waitersOf_release]
    by_cases hfirst : name = first <;> by_cases hrest : name ∈ rest <;>
      simp [hfirst, hrest, List.filter_filter]

/-- A template comes last among those that wait, unless it waits already. -/
def joining (template : Text) (waiters : List Text) : List Text :=
  if waiters.contains template then waiters else waiters ++ [template]

lemma joining_joining (waiters : List Text) :
    joining template (joining template waiters) = joining template waiters := by
  unfold joining
  split <;> simp_all

lemma waitersOf_await :
    waitersOf (await template waiting name) other =
      if other = name then joining template (waitersOf waiting other)
      else waitersOf waiting other := by
  by_cases h : other = name
  · subst h
    rw [if_pos rfl, waitersOf, await, Table.get?_set_self]
    rfl
  · rw [if_neg h, waitersOf, await, Table.get?_set, if_neg (Ne.symm h), waitersOf]

lemma waitersOf_foldl_await :
    waitersOf (names.foldl (await template) waiting) name =
      if name ∈ names then joining template (waitersOf waiting name)
      else waitersOf waiting name := by
  induction names generalizing waiting with
  | nil => rfl
  | cons first rest ih =>
    rw [List.foldl_cons, ih, waitersOf_await]
    by_cases hfirst : name = first <;> by_cases hrest : name ∈ rest <;>
      simp [hfirst, hrest, joining_joining]

/-! ### Consistent graphs -/

/-- The two tables of a graph tell the same. -/
structure Consistent (g : Graph) : Prop where
  /-- No template has two entries. -/
  nodup : g.pending.keys.Nodup
  /-- A template with an entry waits for something. -/
  ne_nil : ∀ entry ∈ g.pending, entry.2 ≠ []
  /-- The templates that wait for a name are those that have it among their names. -/
  dependents_eq : ∀ name, g.dependents name = Table.keys (g.pending.filter (name ∈ ·.2))

namespace Consistent

lemma empty : Consistent {} := ⟨List.nodup_nil, by simp, fun _ => rfl⟩

lemma mem_dependents_iff (h : g.Consistent) : template ∈ g.dependents name ↔
    name ∈ g.pendingOf template := by
  rw [h.dependents_eq, pendingOf]
  constructor
  · intro hmem
    obtain ⟨⟨k, ns⟩, hentry, rfl⟩ := List.mem_map.mp hmem
    obtain ⟨hpending, hname⟩ := List.mem_filter.mp hentry
    rw [(Table.mem_iff_get? h.nodup).mp hpending]
    simpa using hname
  · intro hname
    cases hget : g.pending.get? template with
    | none => simp [hget] at hname
    | some ns =>
      have hpending := (Table.mem_iff_get? h.nodup).mpr hget
      refine List.mem_map.mpr ⟨(template, ns), List.mem_filter.mpr ⟨hpending, ?_⟩, rfl⟩
      simpa [hget] using hname

lemma nodup_dependents (h : g.Consistent) : (g.dependents name).Nodup := by
  rw [h.dependents_eq]
  exact h.nodup.sublist (List.filter_sublist.map Prod.fst)

/-- Where a template no longer waits, it is no longer among those that wait for a name. -/
lemma dependents_discard (h : g.Consistent) :
    (g.discard template).dependents name = (g.dependents name).filter (· ≠ template) := by
  have heq : (g.discard template).dependents name =
      if name ∈ g.pendingOf template then (g.dependents name).filter (· ≠ template)
      else g.dependents name := waitersOf_foldl_release
  rw [heq]
  split
  · rfl
  · -- a template that does not wait for the name is not there to be taken away
    rename_i hname
    refine (List.filter_eq_self.mpr fun t ht => ?_).symm
    rw [decide_eq_true_eq]
    rintro rfl
    exact hname (h.mem_dependents_iff.mp ht)

lemma discard (h : g.Consistent) : (g.discard template).Consistent where
  nodup := Table.nodup_keys_erase h.nodup
  ne_nil entry hentry := h.ne_nil entry (List.mem_of_mem_filter hentry)
  dependents_eq name := by
    rw [h.dependents_discard, h.dependents_eq, ← Table.keys_erase]
    simp only [Graph.discard, Table.erase]
    rw [List.filter_comm]

lemma setPending (h : g.Consistent) : (g.setPending template names).Consistent := by
  have hdiscard : (g.discard template).Consistent := h.discard
  unfold Graph.setPending
  cases hnames : names.eraseDups with
  | nil => exact hdiscard
  | cons first rest =>
    have hnew : template ∉ (g.discard template).pending.keys := Table.not_mem_keys_erase
    dsimp only
    refine ⟨Table.nodup_keys_set hdiscard.nodup, ?_, fun name => ?_⟩
    · intro entry hentry
      rw [Table.set_of_not_mem hnew, List.mem_append, List.mem_singleton] at hentry
      rcases hentry with hentry | rfl
      · exact hdiscard.ne_nil entry hentry
      · exact List.cons_ne_nil first rest
    · have hold : template ∉ (g.discard template).dependents name := by
        simp [h.dependents_discard]
      have hjoining : joining template ((g.discard template).dependents name) =
          (g.discard template).dependents name ++ [template] := by
        simp [joining, hold]
      have heq := @waitersOf_foldl_await template name (first :: rest) (g.discard template).waiting
      -- the entry of the template is the last one, so it counts if and only if the name is new
      rw [Table.set_of_not_mem hnew, List.filter_append, Table.keys, List.map_append, ← Table.keys,
        ← hdiscard.dependents_eq]
      refine heq.trans ?_
      by_cases hname : name ∈ first :: rest
      · rw [if_pos hname, List.filter_singleton, decide_eq_true hname]
        exact hjoining
      · rw [if_neg hname, List.filter_singleton, decide_eq_false hname]
        exact (List.append_nil _).symm

lemma setAllPending {results : Table Text (List Text)} (h : g.Consistent) :
    (g.setAllPending results).Consistent := by
  induction results generalizing g with
  | nil => exact h
  | cons result rest ih => exact ih h.setPending

end Consistent

/-! ### Histories of graphs -/

variable {ε : Type}

/-- A call that changes a graph.  What the templates come to when they are compiled again, and whether
that fails, is different from call to call. -/
inductive Change (ε : Type) where
  /-- A template waits for some names and for nothing else. -/
  | setPending (template : Text) (names : List Text)
  /-- A template waits for nothing. -/
  | discard (template : Text)
  /-- What waits for a name is compiled again. -/
  | resolve (name : Text) (recompile : Text → Except ε (List Text))

/-- The graph behind a call.  A call that fails leaves the graph as it was. -/
def after (g : Graph) : Change ε → Graph
  | .setPending template names => g.setPending template names
  | .discard template => g.discard template
  | .resolve name recompile =>
    match g.resolve name recompile with
    | .ok g' => g'
    | .error _ => g

/-- The graph behind several calls, when nothing waited in front of them. -/
def afterAll (changes : List (Change ε)) : Graph := changes.foldl after {}

/-- Where compiling again succeeds, the results are taken over. -/
lemma exists_results_of_resolve {g' : Graph} {recompile : Text → Except ε (List Text)}
    (h : g.resolve name recompile = .ok g') : ∃ results, g' = g.setAllPending results := by
  unfold resolve at h
  cases hresults : (g.dependents name).mapM
      fun template => (do return (template, ← recompile template) : Except ε (Text × List Text)) with
  | error e => rw [hresults] at h; cases h
  | ok results =>
    rw [hresults] at h
    exact ⟨results, (Except.ok.inj h).symm⟩

/-- What every way to change a graph keeps, a call keeps. -/
lemma after_induction {P : Graph → Prop}
    (hset : ∀ g template names, P g → P (g.setPending template names))
    (hdiscard : ∀ g template, P g → P (g.discard template)) (h : P g) (change : Change ε) :
    P (g.after change) := by
  cases change with
  | setPending template names => exact hset g template names h
  | discard template => exact hdiscard g template h
  | resolve name recompile =>
    unfold after
    dsimp only
    split
    · next g' hresolve =>
      obtain ⟨results, rfl⟩ := exists_results_of_resolve hresolve
      clear hresolve
      induction results generalizing g with
      | nil => exact h
      | cons result rest ih => exact ih (hset g result.1 result.2 h)
    · exact h

/-- No name is remembered for which nothing waits. -/
def Tidy (waiting : Table Text (List Text)) : Prop := ∀ name, waiting.get? name ≠ some []

lemma Tidy.release (h : Tidy waiting) : Tidy (release template waiting name) := by
  unfold Graph.release
  split
  · exact h
  · intro other
    split
    · by_cases hother : name = other
      · simp [hother, Table.get?_erase_self]
      · rw [Table.get?_erase_of_ne hother]
        exact h other
    · next hothers =>
      by_cases hother : name = other
      · simpa [Table.get?_set, hother] using hothers
      · rw [Table.get?_set, if_neg hother]
        exact h other

lemma Tidy.await (h : Tidy waiting) : Tidy (await template waiting name) := by
  intro other
  by_cases hother : name = other
  · subst hother
    rw [Graph.await, Table.get?_set_self, ne_eq, Option.some_inj]
    split
    · next hmem => exact List.ne_nil_of_mem (List.contains_iff_mem.mp hmem)
    · exact List.append_ne_nil_of_right_ne_nil _ (List.cons_ne_nil template [])
  · rw [Graph.await, Table.get?_set, if_neg hother]
    exact h other

lemma Tidy.foldl {change : Table Text (List Text) → Text → Table Text (List Text)}
    (hchange : ∀ waiting name, Tidy waiting → Tidy (change waiting name)) (h : Tidy waiting) :
    Tidy (names.foldl change waiting) := by
  induction names generalizing waiting with
  | nil => exact h
  | cons first rest ih => exact ih (hchange waiting first h)

lemma Tidy.discard (h : Tidy g.waiting) : Tidy (g.discard template).waiting :=
  h.foldl fun _ _ h => h.release

lemma Tidy.setPending (h : Tidy g.waiting) : Tidy (g.setPending template names).waiting := by
  have hdiscard : Tidy (g.discard template).waiting := h.discard
  unfold Graph.setPending
  split
  · exact hdiscard
  · exact hdiscard.foldl fun _ _ h => h.await

/-- What holds of the empty graph and is kept by calls holds of every graph that calls lead to. -/
lemma afterAll_induction {P : Graph → Prop} (hempty : P {})
    (hafter : ∀ (g : Graph) (change : Change ε), P g → P (g.after change))
    (changes : List (Change ε)) : P (afterAll changes) := by
  suffices h : ∀ g : Graph, P g → P (changes.foldl after g) from h {} hempty
  induction changes with
  | nil => exact fun _ h => h
  | cons change rest ih => exact fun g h => ih _ (hafter g change h)

lemma consistent_afterAll (changes : List (Change ε)) : (afterAll changes).Consistent :=
  afterAll_induction Consistent.empty
    (fun _ change h => after_induction (fun _ _ _ h => h.setPending) (fun _ _ h => h.discard) h change)
    changes

lemma tidy_afterAll (changes : List (Change ε)) : Tidy (afterAll changes).waiting :=
  afterAll_induction (P := fun g => Tidy g.waiting) (by intro name; simp [Table.get?])
    (fun _ change h => after_induction (P := fun g => Tidy g.waiting) (fun _ _ _ h => h.setPending)
      (fun _ _ h => h.discard) h change) changes

/-- Whatever calls were made, a graph tells the same from both ends.  A template that is in it waits
for something; the templates that wait for a name are those that have it among their names, in the
order in which they stand in the graph and each once; and a name is remembered if and only if some
template waits for it. -/
theorem ends_agree (changes : List (Change ε)) :
    (afterAll changes).pending.keys.Nodup ∧
    (∀ entry ∈ (afterAll changes).pending, entry.2 ≠ []) ∧
    ∀ name,
      (afterAll changes).dependents name =
        Table.keys ((afterAll changes).pending.filter (name ∈ ·.2)) ∧
      ((afterAll changes).dependents name).Nodup ∧
      (∀ template, template ∈ (afterAll changes).dependents name ↔
        name ∈ (afterAll changes).pendingOf template) ∧
      (name ∈ (afterAll changes).waiting.keys ↔
        ∃ template, name ∈ (afterAll changes).pendingOf template) := by
  have h : (afterAll changes).Consistent := consistent_afterAll changes
  refine ⟨h.nodup, h.ne_nil, fun name => ⟨h.dependents_eq name, h.nodup_dependents,
    fun _ => h.mem_dependents_iff, ?_⟩⟩
  simp only [← h.mem_dependents_iff, Table.mem_keys_iff, dependents]
  constructor
  · rintro ⟨waiters, hwaiters⟩
    -- the list of a name is not empty, so its first member waits
    cases waiters with
    | nil => exact absurd hwaiters (tidy_afterAll changes name)
    | cons first rest => exact ⟨first, by simp [hwaiters]⟩
  · rintro ⟨template, htemplate⟩
    cases hwaiters : (afterAll changes).waiting.get? name with
    | none => simp [hwaiters] at htemplate
    | some waiters => exact ⟨waiters, rfl⟩

/-- Three templates wait.  `X` arrives, for which `A` and `B` wait, and `B` goes on waiting for it. -/
def arrival : List (Change Unit) :=
  [.setPending "A" ["X", "Y"], .setPending "B" ["X"], .setPending "C" ["Y", "Z"],
    .resolve "X" fun template => .ok (if template = "B" then ["X"] else ["Y"]), .discard "C"]

example : (afterAll arrival).pending = ([("A", ["Y"]), ("B", ["X"])] : List (Text × List Text)) ∧
    (afterAll arrival).waiting.keys = ["Y", "X"] ∧
    (afterAll arrival).dependents "Y" = ["A"] ∧ (afterAll arrival).dependents "X" = ["B"] := by
  decide

end ComponentTags.Graph
