/-
# Worlds

While a component is rendered, templates are started, macros are defined and things happen between the
engine and the templates, and all of this is kept in one store.  A world says what has been started and
defined and what has happened so far.  A store is in order in a world (`InOrder`) if every variable of a
block is one that the template of the run binds and does not get hold of what lowering has written for other
components, and if everything that has happened keeps to the rules.

Worlds only grow, and what is said in a world stays true when it grows.
-/
import ComponentTags.Proofs.Engine.Journal
import ComponentTags.Proofs.Engine.Upkeep
import ComponentTags.Proofs.Template.Bound
import ComponentTags.Proofs.Template.Computed

namespace ComponentTags

open Template

/-- A template of the language that runs. -/
abbrev Template.Home := Running (List Statement)

/-- What has been started and defined in a rendering so far, and what has happened. -/
structure World where
  /-- The templates that were started. -/
  homes : List Home := []
  /-- The macros. -/
  macros : List Macro := []
  /-- What has happened, the last first. -/
  journal : List (Event (List Statement)) := []

namespace World

instance : Preorder World where
  le W W' := W.homes <+: W'.homes ∧ W.macros <+: W'.macros ∧ W.journal <:+ W'.journal
  le_refl W := ⟨List.prefix_rfl, List.prefix_rfl, List.suffix_rfl⟩
  le_trans _ _ _ h h' := ⟨h.1.trans h'.1, h.2.1.trans h'.2.1, h.2.2.trans h'.2.2⟩

lemma getElem?_of_prefix {α : Type} {xs ys : List α} {i : Nat} {x : α} (h : xs <+: ys)
    (hx : xs[i]? = some x) : ys[i]? = some x := by
  obtain ⟨hi, rfl⟩ := List.getElem?_eq_some_iff.mp hx
  exact List.prefix_iff_getElem?.mp h i hi

variable {W W' : World} {i : Nat} {home : Home} {m : Macro} {e : Event (List Statement)}

lemma getElem?_homes (h : W ≤ W') (ho : W.homes[i]? = some home) : W'.homes[i]? = some home :=
  getElem?_of_prefix h.1 ho

lemma getElem?_macros (h : W ≤ W') (hm : W.macros[i]? = some m) : W'.macros[i]? = some m :=
  getElem?_of_prefix h.2.1 hm

lemma mem_journal (h : W ≤ W') (he : e ∈ W.journal) : e ∈ W'.journal := h.2.2.mem he

/-- What a template may call in a world without harm. -/
def Plain (W : World) : Callable → Prop :=
  Callable.IsPlain fun k => ∃ m, W.macros[k]? = some m ∧ isBlock m.parameters = false

lemma Plain.mono (h : W ≤ W') (c : Callable) (hc : W.Plain c) : W'.Plain c :=
  Callable.IsPlain.mono (fun _ ⟨m, hm, hblock⟩ => ⟨m, getElem?_macros h hm, hblock⟩) c hc

end World

/-! ### Variables in order -/

namespace Session

variable (S : Session language)

/-- A value that may be the context of a content: nothing that has parts, or a context of which something is
known. -/
inductive IsCarrier (IsOwn : Value → Prop) (W : World) : Value → Prop where
  | none : IsCarrier IsOwn W .none
  | undefined {strict : Bool} {reason : Text} : IsCarrier IsOwn W (.undefined strict reason)
  | callable {c : Callable} (h : W.Plain c) : IsCarrier IsOwn W (.callable c)
  | context {dot root : Value} {locals : Table Text Value}
    (hplain : (Value.context dot root locals).CallsOnly W.Plain) (h : IsOwn (.context dot root locals)) :
    IsCarrier IsOwn W (.context dot root locals)

/-- A value that the context of a content has in a template: it has been entered with this value. -/
def IsEntered (W : World) (home : Home) : Value → Prop :=
  IsCarrier (fun v => .entered home v ∈ W.journal) W

/-- A value that a template may pass on as a context. -/
def Passes (W : World) (home : Home) : Value → Prop := IsCarrier (S.Carries home W.journal) W

/-- A value that variables of a run can have: a plain one or a block of the template. -/
inductive IsKnown (W : World) (run : Nat) : Value → Prop where
  | plain {v : Value} (h : v.CallsOnly W.Plain) : IsKnown W run v
  | block {number : Nat} {name : Text} {m : Macro} (h : W.macros[number]? = some m)
    (hblock : isBlock m.parameters = true) (hrun : m.place.run = run) :
    IsKnown W run (.callable (.macroCall number name))

/-- A value suits a variable of a run. -/
structure Suits (W : World) (run : Nat) (home : Home) (n : Text) (v : Value) : Prop where
  plain : ComponentClass.isTaken n = false → v.CallsOnly W.Plain
  carrier : n = contextName → IsEntered W home v
  known : IsKnown W run v

/-- The variables of a block are in order. -/
structure FrameInOrder (W : World) (run : Nat) (home : Home) (f : Template.Frame) : Prop where
  cells : ∀ entry ∈ f.cells, entry.1 ∈ boundAll home.tree ∧ ∀ v ∈ entry.2, Suits W run home entry.1 v
  loopVariables : ∀ entry ∈ f.loopVariables,
    entry.1 ∈ boundAll home.tree ∧ Suits W run home entry.1 entry.2

/-- A macro comes from a template that does with names what it may. -/
structure MacroInOrder (W : World) (m : Macro) (home : Home) : Prop where
  home_eq : W.homes[m.place.run]? = some home
  parameters : isBlock m.parameters = true ∨ ∀ x ∈ mentionsOfParameters m.parameters, x.IsAllowed
  body : ∀ x ∈ mentionsAll m.body, x.IsAllowed
  bound_parameters : ∀ n ∈ m.parameters.map Parameter.name, n ∈ boundAll home.tree
  bound_specials : ∀ n ∈ specialsOf (m.parameters.map Parameter.name) (mentionsAll m.body),
    n ∈ boundAll home.tree
  bound_body : ∀ n ∈ boundAll m.body, n ∈ boundAll home.tree

/-- A template that runs does with names what it may, and has plain variables.  Reserved names are no
variables but for the functions and for what these replace. -/
structure HomeInOrder (W : World) (home : Home) : Prop where
  started : .started home ∈ W.journal
  allowed : ∀ x ∈ mentionsAll home.tree, x.IsAllowed
  plain : Value.TableCallsOnly W.Plain home.given
  functions : home.given.get? functionsName = some S.functionsValue
  no_scopeFunction : home.given.get? scopeFunction = none
  reserved : ∀ n v, isReserved n = true → n ≠ functionsName → home.given.get? n = some v →
    ∃ k, v = .callable (.function k)

/-- A store is in order in a world. -/
structure InOrder (W : World) (st : Store) : Prop where
  macros_eq : st.memory.macros.toList = W.macros
  macros : ∀ m ∈ W.macros, ∃ home, MacroInOrder W m home
  homes_eq : st.memory.runs.toList.map (fun run => ⟨run.tree, run.given⟩) = W.homes
  homes : ∀ home ∈ W.homes, S.HomeInOrder W home
  runs : ∀ i run home, st.memory.runs[i]? = some run → W.homes[i]? = some home →
    ∀ f ∈ run.frames, FrameInOrder W i home f
  journal_eq : st.owned.journal = W.journal
  obedient : S.Obedient W.journal
  functions : st.owned.functions.toList.map Prod.fst = S.start.owned.functions.toList.map Prod.fst

instance : Unwritten S.InOrder := ⟨fun h => { h with }⟩

/-- An action keeps the stores of a rendering in order. -/
abbrev Keeps {α : Type} (W : World) (a : Action α) (Q : World → α → Prop) : Prop :=
  ComponentTags.Keeps S.InOrder W a Q

/-! ### Growing worlds -/

variable {S} {W W' : World} {run : Nat} {home : Home} {n : Text} {v : Value}

lemma IsCarrier.mono {IsOwn IsOwn' : Value → Prop} (hW : W ≤ W') (hown : ∀ v, IsOwn v → IsOwn' v)
    (h : IsCarrier IsOwn W v) : IsCarrier IsOwn' W' v := by
  cases h with
  | none => exact .none
  | undefined => exact .undefined
  | callable h => exact .callable (World.Plain.mono hW _ h)
  | context hplain h => exact .context (hplain.mono (World.Plain.mono hW)) (hown _ h)

lemma IsCarrier.plain {IsOwn : Value → Prop} (h : IsCarrier IsOwn W v) : v.CallsOnly W.Plain := by
  cases h with
  | none => exact .none
  | undefined => exact .undefined
  | callable h => exact .callable h
  | context hplain => exact hplain

lemma IsEntered.mono (hW : W ≤ W') (h : IsEntered W home v) : IsEntered W' home v :=
  IsCarrier.mono hW (fun _ => World.mem_journal hW) h

lemma Passes.mono (hW : W ≤ W') (h : S.Passes W home v) : S.Passes W' home v :=
  IsCarrier.mono hW (fun _ h => h.mono hW.2.2.subset) h

lemma IsKnown.mono (hW : W ≤ W') (h : IsKnown W run v) : IsKnown W' run v := by
  cases h with
  | plain h => exact .plain (h.mono (World.Plain.mono hW))
  | block h hblock hrun => exact .block (World.getElem?_macros hW h) hblock hrun

lemma Suits.mono (hW : W ≤ W') (h : Suits W run home n v) : Suits W' run home n v :=
  ⟨fun hn => (h.plain hn).mono (World.Plain.mono hW), fun hn => (h.carrier hn).mono hW,
    h.known.mono hW⟩

lemma FrameInOrder.mono {f : Template.Frame} (hW : W ≤ W') (h : FrameInOrder W run home f) :
    FrameInOrder W' run home f :=
  ⟨fun entry he => ⟨(h.cells entry he).1, fun v hv => ((h.cells entry he).2 v hv).mono hW⟩,
    fun entry he => ⟨(h.loopVariables entry he).1, (h.loopVariables entry he).2.mono hW⟩⟩

lemma MacroInOrder.mono {m : Macro} (hW : W ≤ W') (h : MacroInOrder W m home) : MacroInOrder W' m home :=
  { h with home_eq := World.getElem?_homes hW h.home_eq }

lemma HomeInOrder.mono (hW : W ≤ W') (h : S.HomeInOrder W home) : S.HomeInOrder W' home :=
  { h with
    started := World.mem_journal hW h.started
    plain := h.plain.mono (World.Plain.mono hW) }

/-- A plain value suits every name without a meaning of its own. -/
lemma Suits.of_plain (h : v.CallsOnly W.Plain) (hn : ComponentClass.isTaken n = false) :
    Suits W run home n v := by
  refine ⟨fun _ => h, ?_, .plain h⟩
  rintro rfl
  exact absurd hn (by decide)

/-! ### Names in order -/

namespace HomeInOrder

variable (h : S.HomeInOrder W home)

include h

/-- A template binds only names that it may bind. -/
lemma isBindable (hn : n ∈ boundAll home.tree) : IsBindable n := by
  obtain ⟨x, hx, hmem⟩ := List.mem_flatMap.mp hn
  exact (h.allowed x hx).isBindable hmem

lemma not_mem_bound (hn : n ∈ [thisName, rootName, functionsName, renderFunction, scopeFunction]) :
    n ∉ boundAll home.tree :=
  Language.not_mem_bound (L := language) (t := home.tree) h.allowed hn

lemma resolved_scopeFunction : S.resolved home scopeFunction = some (.callable .scopeMaker) := by
  rw [resolved, h.no_scopeFunction, Option.none_or, get?_globals_scopeFunction]

/-- The function that renders components may be replaced, but only by a function. -/
lemma resolved_renderFunction : S.resolved home renderFunction = some (.callable .renderer) ∨
    ∃ k, S.resolved home renderFunction = some (.callable (.function k)) := by
  rw [resolved]
  cases hgiven : home.given.get? renderFunction with
  | none => exact .inl get?_globals_renderFunction
  | some v =>
    obtain ⟨k, rfl⟩ := h.reserved _ _ (by decide) (by decide) hgiven
    exact .inr ⟨k, rfl⟩

end HomeInOrder

/-- What every template knows can be called. -/
lemma exists_of_get?_globals (hv : S.setting.globals.get? n = some v) :
    ∃ c : Callable, v = .callable c ∧ (n ≠ renderFunction → c.IsPlain fun _ => False) := by
  unfold setting Engine.setting at hv
  dsimp only at hv
  rw [Table.get?_set, Table.get?_set] at hv
  split_ifs at hv with hscope hrender
  · cases hv
    exact ⟨.scopeMaker, rfl, fun _ => trivial⟩
  · cases hv
    exact ⟨.renderer, rfl, fun hn => absurd hrender.symm hn⟩
  · rcases Table.mem_of_mem_setAll (Table.mem_of_get? hv) with hmem | hmem
    · cases List.mem_singleton.mp hmem
      exact ⟨.counting, rfl, fun _ => trivial⟩
    · obtain ⟨entry, -, heq⟩ := List.mem_map.mp hmem
      cases heq
      exact ⟨.function _, rfl, fun _ => trivial⟩

lemma HomeInOrder.plain_of_resolved (h : S.HomeInOrder W home) (hv : S.resolved home n = some v)
    (hn : n ≠ renderFunction) : v.CallsOnly W.Plain := by
  rcases Option.or_eq_some_iff.mp hv with hvalue | ⟨-, hvalue⟩
  · exact h.plain.get? hvalue
  · obtain ⟨c, rfl, hc⟩ := exists_of_get?_globals hvalue
    exact Value.IsOutside.plain (.callable (hc hn))

/-- What a name stands for suits it, unless it is the function that renders components. -/
lemma HomeInOrder.suits_of_resolved (h : S.HomeInOrder W home) (hv : S.resolved home n = some v)
    (hn : n ≠ renderFunction) : Suits W run home n v := by
  have hplain : v.CallsOnly W.Plain := h.plain_of_resolved hv hn
  refine ⟨fun _ => hplain, ?_, .plain hplain⟩
  rintro rfl
  -- the name of the context stands for a function if it stands for anything
  have hcallable : ∃ c, v = .callable c := by
    rcases Option.or_eq_some_iff.mp hv with hvalue | ⟨-, hvalue⟩
    · obtain ⟨k, rfl⟩ := h.reserved _ _ (by decide) (by decide) hvalue
      exact ⟨_, rfl⟩
    · obtain ⟨c, rfl, -⟩ := exists_of_get?_globals hvalue
      exact ⟨c, rfl⟩
  obtain ⟨c, rfl⟩ := hcallable
  exact .callable (Value.callsOnly_callable.mp hplain)

end Session

end ComponentTags
