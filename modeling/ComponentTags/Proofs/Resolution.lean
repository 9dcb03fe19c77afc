/-
# Resolving a name

When a name arrives, the templates that wait for it are compiled again one after the other, and only
when all of them have been compiled the graph takes over what they wait for now.  So the graph changes as
a whole or not at all, although a program that keeps it could change it before a failure
(`Program.resolve_noting`).  The templates that are compiled are exactly those that wait for the name:
taking over the first results removes templates from the lists of others and adds them to new ones, but
what is compiled has been decided before.
-/
import ComponentTags.Proofs.Graph

namespace ComponentTags.Graph

variable {g g' : Graph} {template name other : Text} {names : List Text}
  {results : Table Text (List Text)}

/-! ### The graph that has taken over results -/

/-- A template that waits for something new comes last. -/
lemma pending_setPending : (g.setPending template names).pending =
    g.pending.erase template ++ if names = [] then [] else [(template, names.eraseDups)] := by
  unfold setPending
  cases names with
  | nil => simp [discard]
  | cons first rest =>
    have hnew : template ∉ (g.discard template).pending.keys := Table.not_mem_keys_erase
    rw [if_neg (List.cons_ne_nil first rest)]
    simp only [List.eraseDups_cons]
    rw [Table.set_of_not_mem hnew]
    rfl

lemma Consistent.dependents_setPending (h : g.Consistent) :
    (g.setPending template names).dependents other =
      (g.dependents other).filter (· ≠ template) ++ if other ∈ names then [template] else [] := by
  rw [h.setPending.dependents_eq, pending_setPending, List.filter_append, Table.keys,
    List.map_append, ← Table.keys, h.dependents_eq, Table.erase, List.filter_comm]
  congr 1
  · rw [← Table.erase, Table.keys_erase]
  · by_cases hnames : names = []
    · simp [hnames]
    · by_cases hother : other ∈ names <;> simp [hnames, hother]

/-- What waits for a name when several templates wait for other names than before: those of the others
that waited for it, and behind them those that wait for it now. -/
lemma Consistent.dependents_setAllPending (h : g.Consistent) (hnodup : results.keys.Nodup) :
    (g.setAllPending results).dependents other =
      (g.dependents other).filter (· ∉ results.keys) ++
        Table.keys (results.filter (other ∈ ·.2)) := by
  induction results generalizing g with
  | nil =>
    change g.dependents other = _
    simp [Table.keys]
  | cons result rest ih =>
    obtain ⟨template, names⟩ := result
    obtain ⟨htemplate, hrest⟩ : template ∉ Table.keys rest ∧ (Table.keys rest).Nodup :=
      List.nodup_cons.mp hnodup
    have hset : (g.setPending template names).Consistent := h.setPending
    have hbehind := ih hset hrest
    rw [h.dependents_setPending, List.filter_append, List.filter_filter] at hbehind
    have hkeys : Table.keys ((template, names) :: rest) = template :: Table.keys rest := rfl
    refine hbehind.trans ?_
    rw [List.append_assoc, hkeys]
    congr 1
    · refine List.filter_congr fun t _ => ?_
      simp only [List.mem_cons, not_or, Bool.decide_and, Bool.and_comm, ne_eq]
    · -- the first template comes in front of the others, among which it is not
      have hkept : [template].filter (· ∉ Table.keys rest) = [template] := by simp [htemplate]
      by_cases hother : other ∈ names
      · rw [if_pos hother, hkept, List.filter_cons_of_pos (by simpa using hother)]
        rfl
      · rw [if_neg hother, List.filter_nil, List.filter_cons_of_neg (by simpa using hother)]
        rfl

/-- A graph has taken over what the templates that wait for a name came to, and nothing else. -/
structure Resolved (g : Graph) (name : Text) (results : Table Text (List Text)) (g' : Graph) :
    Prop where
  /-- A template that was compiled waits for what it came to. -/
  pendingOf_compiled : ∀ entry ∈ results, g'.pendingOf entry.1 = entry.2.eraseDups
  /-- Every other template waits for what it waited for. -/
  pendingOf_other : ∀ template ∉ results.keys, g'.pendingOf template = g.pendingOf template
  /-- What still waits for the name are the templates that came to it again. -/
  dependents_eq : g'.dependents name = Table.keys (results.filter (name ∈ ·.2))

lemma Consistent.resolved (h : g.Consistent) (hresults : results.keys = g.dependents name) :
    Resolved g name results (g.setAllPending results) where
  pendingOf_compiled entry hentry := by
    have hnodup : results.keys.Nodup := hresults ▸ h.nodup_dependents
    rw [pendingOf_setAllPending hnodup, (Table.mem_iff_get? hnodup).mp hentry]
    rfl
  pendingOf_other template htemplate := by
    rw [pendingOf_setAllPending (hresults ▸ h.nodup_dependents),
      Table.get?_eq_none_iff.mpr htemplate]
    rfl
  dependents_eq := by
    rw [h.dependents_setAllPending (hresults ▸ h.nodup_dependents), hresults]
    simp

/-! ### Programs -/

variable {ε σ : Type}

/-- A program that follows another one runs on what the first one leaves. -/
lemma bind_apply {τ α β : Type} (a : ExceptT ε (StateM τ) α) (k : α → ExceptT ε (StateM τ) β) (s : τ) :
    (a >>= k) s =
      match a s with
      | (.ok v, s') => k v s'
      | (.error e, s') => (.error e, s') := by
  simp only [bind, ExceptT.bind, ExceptT.mk, StateT.bind]
  rcases a s with ⟨_ | v, s'⟩ <;> rfl

/-! ### Compiling one template after the other -/

variable {recompile : Text → ExceptT ε (StateM σ) (List Text)} {templates : List Text} {e : ε}
  {s s' s'' : σ}

/-- Templates are compiled one after the other, each with what the one in front of it has left, and all
of them come to names. -/
inductive Compiles (recompile : Text → ExceptT ε (StateM σ) (List Text)) :
    σ → Table Text (List Text) → σ → Prop
  | nil {s : σ} : Compiles recompile s [] s
  | cons {s s' s'' : σ} {template : Text} {names : List Text} {rest : Table Text (List Text)}
      (hfirst : recompile template s = (.ok names, s')) (next : Compiles recompile s' rest s'') :
      Compiles recompile s ((template, names) :: rest) s''

/-- Templates are compiled one after the other up to one that fails. -/
structure Stops (recompile : Text → ExceptT ε (StateM σ) (List Text)) (templates : List Text) (s : σ)
    (compiled : Table Text (List Text)) (failing : Text) (e : ε) (s'' : σ) : Prop where
  /-- The templates in front of the failing one come to names. -/
  compiles : ∃ s', Compiles recompile s compiled s' ∧ recompile failing s' = (.error e, s'')
  /-- Those behind it are not compiled. -/
  templates_eq : ∃ rest, templates = compiled.keys ++ failing :: rest

/-- Compiles templates one after the other, up to the first that fails. -/
def compileEach (recompile : Text → ExceptT ε (StateM σ) (List Text)) (templates : List Text) :
    ExceptT ε (StateM σ) (Table Text (List Text)) :=
  templates.mapM fun template => do return (template, ← recompile template)

lemma compileEach_cons (template : Text) (templates : List Text) (s : σ) :
    compileEach recompile (template :: templates) s =
      match recompile template s with
      | (.error e, s') => (.error e, s')
      | (.ok names, s') =>
        match compileEach recompile templates s' with
        | (.error e, s'') => (.error e, s'')
        | (.ok results, s'') => (.ok ((template, names) :: results), s'') := by
  rw [compileEach, List.mapM_cons, bind_apply, bind_apply, ← compileEach]
  rcases recompile template s with ⟨e | names, s'⟩
  · rfl
  · change (compileEach recompile templates >>= fun results =>
      pure ((template, names) :: results)) s' = _
    rw [bind_apply]
    dsimp only
    rcases compileEach recompile templates s' with ⟨e | results, s''⟩ <;> rfl

/-- Either all templates are compiled, or one of them fails and those behind it are left. -/
lemma compileEach_cases (recompile : Text → ExceptT ε (StateM σ) (List Text)) (templates : List Text)
    (s : σ) :
    (∃ results s', compileEach recompile templates s = (.ok results, s') ∧ results.keys = templates ∧
      Compiles recompile s results s') ∨
    (∃ compiled failing e s', compileEach recompile templates s = (.error e, s') ∧
      Stops recompile templates s compiled failing e s') := by
  induction templates generalizing s with
  | nil => exact .inl ⟨[], s, rfl, rfl, .nil⟩
  | cons template templates ih =>
    rw [compileEach_cons]
    rcases hfirst : recompile template s with ⟨e | names, s'⟩
    · exact .inr ⟨[], template, e, s', rfl, ⟨s, .nil, hfirst⟩, templates, rfl⟩
    · rcases ih s' with ⟨results, s'', heach, rfl, hcompiles⟩ |
        ⟨compiled, failing, e, s'', heach, ⟨t, hcompiles, hfails⟩, rest, rfl⟩
      · left
        exact ⟨(template, names) :: results, s'', by simp only [heach], rfl, .cons hfirst hcompiles⟩
      · right
        exact ⟨(template, names) :: compiled, failing, e, s'', by simp only [heach],
          ⟨t, .cons hfirst hcompiles, hfails⟩, rest, rfl⟩

namespace Program

lemma beside_apply {α : Type} (a : ExceptT ε (StateM σ) α) (g : Graph) (s : σ) :
    beside a (g, s) = ((a s).1, (g, (a s).2)) := rfl

/-- Compiling templates does not touch the graph. -/
lemma mapM_beside (templates : List Text) (g : Graph) (s : σ) :
    (templates.mapM fun template => do return (template, ← beside (recompile template)) :
      Program ε σ (Table Text (List Text))) (g, s) = beside (compileEach recompile templates) (g, s) := by
  induction templates generalizing s with
  | nil => rfl
  | cons template templates ih =>
    rw [List.mapM_cons, bind_apply, bind_apply, beside_apply, beside_apply, compileEach_cons]
    rcases recompile template s with ⟨e | names, s'⟩
    · rfl
    · change ((templates.mapM fun template => do return (template, ← beside (recompile template)) :
        Program ε σ (Table Text (List Text))) >>= fun results =>
          pure ((template, names) :: results)) (g, s') = _
      rw [bind_apply, ih, beside_apply]
      dsimp only
      rcases compileEach recompile templates s' with ⟨e | results, s''⟩ <;> rfl

/-- Taking over the results one after the other. -/
lemma forM_setPending (results : Table Text (List Text)) (g : Graph) (s : σ) :
    (results.forM fun (template, names) => modify fun (g, s) => (g.setPending template names, s) :
      Program ε σ PUnit) (g, s) = (.ok ⟨⟩, (g.setAllPending results, s)) := by
  induction results generalizing g with
  | nil => rfl
  | cons result rest ih => exact ih (g.setPending result.1 result.2)

/-- A program that keeps a graph resolves a name as it is resolved in a graph alone: it gives the
templates that waited for it, and a failure leaves the graph as it was. -/
lemma resolve_apply (name : Text) (recompile : Text → ExceptT ε (StateM σ) (List Text)) (g : Graph)
    (s : σ) :
    resolve name recompile (g, s) =
      match g.resolve name recompile s with
      | (.ok g', s') => (.ok (g.dependents name), (g', s'))
      | (.error e, s') => (.error e, (g, s')) := by
  rw [Graph.resolve, ← compileEach, bind_apply]
  change ((g.dependents name).mapM (fun template => do return (template, ← beside (recompile template)))
    >>= fun results => (results.forM fun (template, names) => modify fun (g, s) =>
      (g.setPending template names, s) : Program ε σ PUnit) >>= fun _ =>
        pure (g.dependents name)) (g, s) = _
  rw [bind_apply, mapM_beside, beside_apply]
  rcases compileEach recompile (g.dependents name) s with ⟨e | results, s'⟩
  · rfl
  · dsimp only
    rw [bind_apply, forM_setPending]
    rfl

end Program

/-! ### Noting the calls -/

/-- Compiling a template again with a note of it. -/
def noting (recompile : Text → ExceptT ε (StateM σ) (List Text)) (template : Text) :
    ExceptT ε (StateM (List Text × σ)) (List Text) := fun (noted, s) =>
  let (result, s') := recompile template s
  (result, (noted ++ [template], s'))

lemma noting_apply (template : Text) (noted : List Text) (s : σ) :
    noting recompile template (noted, s) =
      ((recompile template s).1, (noted ++ [template], (recompile template s).2)) := rfl

/-- Every template is noted that is compiled, and compiling is the same with the notes. -/
lemma Compiles.of_noting {noted : List Text} {state : List Text × σ}
    (h : Compiles (noting recompile) (noted, s) results state) :
    Compiles recompile s results state.2 ∧ state.1 = noted ++ results.keys := by
  generalize hstart : (noted, s) = start at h
  induction h generalizing noted s with
  | nil =>
    subst hstart
    exact ⟨.nil, by simp [Table.keys]⟩
  | @cons _ state' _ template names rest hfirst _ ih =>
    subst hstart
    rw [noting_apply, Prod.mk.injEq] at hfirst
    obtain ⟨hresult, hstate⟩ := hfirst
    obtain ⟨hcompiles, hnoted⟩ := ih hstate
    refine ⟨.cons (Prod.ext hresult rfl) hcompiles, ?_⟩
    rw [hnoted]
    simp [Table.keys]

lemma Stops.of_noting {compiled : Table Text (List Text)} {failing : Text} {noted : List Text}
    {state : List Text × σ}
    (h : Stops (noting recompile) templates (noted, s) compiled failing e state) :
    Stops recompile templates s compiled failing e state.2 ∧
      state.1 = noted ++ compiled.keys ++ [failing] := by
  obtain ⟨⟨⟨noted', s'⟩, hcompiles, hfails⟩, htemplates⟩ := h
  obtain ⟨hcompiles', rfl⟩ := hcompiles.of_noting
  rw [noting_apply, Prod.mk.injEq] at hfails
  obtain ⟨hresult, rfl⟩ := hfails
  exact ⟨⟨⟨s', hcompiles', Prod.ext hresult rfl⟩, htemplates⟩, rfl⟩

/-! ### All or nothing -/

/-- Resolving a name compiles the templates that wait for it in their order, each once, up to the first
that fails.  If one fails, so does resolving, and the graph is as it was.  Otherwise those templates are
the result, and the graph has taken over what they came to and nothing else. -/
theorem Program.resolve_all_or_nothing (changes : List (Change ε)) (name : Text)
    (recompile : Text → ExceptT ε (StateM σ) (List Text)) (s : σ) :
    ((afterAll changes).dependents name).Nodup ∧
    ((∃ results s' g', Compiles recompile s results s' ∧
        results.keys = (afterAll changes).dependents name ∧
        resolve name (noting recompile) (afterAll changes, ([], s)) =
          (.ok results.keys, (g', (results.keys, s'))) ∧
        Resolved (afterAll changes) name results g') ∨
      ∃ compiled failing e s',
        Stops recompile ((afterAll changes).dependents name) s compiled failing e s' ∧
        resolve name (noting recompile) (afterAll changes, ([], s)) =
          (.error e, (afterAll changes, (compiled.keys ++ [failing], s')))) := by
  have hconsistent : (afterAll changes).Consistent := consistent_afterAll changes
  refine ⟨hconsistent.nodup_dependents, ?_⟩
  rw [resolve_apply, Graph.resolve, ← compileEach, bind_apply]
  rcases compileEach_cases (noting recompile) ((afterAll changes).dependents name) ([], s) with
    ⟨results, ⟨noted, s'⟩, heach, hkeys, hcompiles⟩ |
    ⟨compiled, failing, e, ⟨noted, s'⟩, heach, hstops⟩
  · left
    obtain ⟨hcompiles', rfl⟩ := hcompiles.of_noting
    refine ⟨results, s', _, hcompiles', hkeys, ?_, hconsistent.resolved hkeys⟩
    rw [heach, hkeys]
    rfl
  · right
    obtain ⟨hstops', rfl⟩ := hstops.of_noting
    refine ⟨compiled, failing, e, s', hstops', ?_⟩
    rw [heach]
    rfl

/-- Compiles a template again, which fails for those of a list; the number of calls is counted. -/
def compileUnless (failing : List Text) (template : Text) : ExceptT Unit (StateM Nat) (List Text) :=
  fun calls => (if failing.contains template then .error () else .ok ["Z"], calls + 1)

/-- Three templates wait for `X`. -/
def crowd : Graph := afterAll ([.setPending "A" ["X", "Y"], .setPending "B" ["X"],
  .setPending "C" ["X"]] : List (Change Unit))

example : Program.resolve "X" (compileUnless ["B"]) (crowd, 0) = (.error (), (crowd, 2)) ∧
    Program.resolve "X" (compileUnless []) (crowd, 0) = (.ok ["A", "B", "C"],
      (⟨[("A", ["Z"]), ("B", ["Z"]), ("C", ["Z"])], [("Z", ["A", "B", "C"])]⟩, 3)) :=
  ⟨rfl, rfl⟩

end ComponentTags.Graph
