/-
# What operations on the store keep

Reading and setting variables, entering blocks, defining macros and starting templates keep the store of a
rendering in order, and so does what the engine writes into the journal.  A name that the template does not
bind is found to be what it stands for.
-/
import ComponentTags.Proofs.Engine.Traced
import ComponentTags.Proofs.Template.Worlds

namespace ComponentTags

open Template

namespace Session

variable {S : Session language} {W : World} {st : Store} {p : Place} {home : Home} {n : Text} {run : Nat}

/-- The template that runs at a place is in order. -/
lemma keeps_of_home {α : Type} {a : Action α} {Q : World → α → Prop} (ho : W.homes[run]? = some home)
    (h : S.HomeInOrder W home → S.Keeps W a Q) : S.Keeps W a Q :=
  fun st hst => h (hst.homes home (List.mem_of_getElem? ho)) st hst

/-! ### Reading variables -/

/-- What may be found under a name: something that suits it, and what it stands for unless the template binds
it. -/
structure Means (S : Session language) (W : World) (run : Nat) (home : Home) (n : Text)
    (r : Option Value) : Prop where
  eq_resolved : n ∉ boundAll home.tree → r = S.resolved home n
  suits : n ≠ renderFunction → ∀ v ∈ r, Suits W run home n v

namespace InOrder

variable (h : S.InOrder W st) (ho : W.homes[p.run]? = some home)

include h ho

lemma exists_run : ∃ run, st.memory.runs[p.run]? = some run ∧ home = ⟨run.tree, run.given⟩ := by
  rw [← h.homes_eq, List.getElem?_map, Array.getElem?_toList] at ho
  obtain ⟨run, hrun, rfl⟩ := Option.map_eq_some_iff.mp ho
  exact ⟨run, hrun, rfl⟩

lemma frame {i : Nat} {f : Template.Frame} (hf : st.memory.frame? p.run i = some f) :
    FrameInOrder W p.run home f := by
  obtain ⟨r, hr, hf⟩ := Option.bind_eq_some_iff.mp hf
  exact h.runs p.run r home hr ho f (Array.mem_of_getElem? hf)

lemma cell {frames : List Nat} {c : Option Value} (hc : st.memory.cell? p.run frames n = some c) :
    n ∈ boundAll home.tree ∧ ∀ v ∈ c, Suits W p.run home n v := by
  obtain ⟨i, -, hc⟩ := List.exists_of_findSome?_eq_some hc
  obtain ⟨f, hf, hc⟩ := Option.bind_eq_some_iff.mp hc
  exact (h.frame ho hf).cells (n, c) (Table.mem_of_get? hc)

/-- Outside of all blocks, a name has the value that it stands for in the template. -/
lemma means_global? : S.Means W p.run home n (st.memory.global? S.setting p n) := by
  have hvalue : st.memory.global? S.setting p n = S.resolved home n := by
    obtain ⟨run, hrun, rfl⟩ := h.exists_run ho
    rw [Memory.global?, hrun, Option.bind_some, resolved]
    cases run.given.get? n <;> rfl
  rw [hvalue]
  exact ⟨fun _ => rfl, fun hn v hv =>
    (h.homes home (List.mem_of_getElem? ho)).suits_of_resolved hv hn⟩

lemma means_value? : S.Means W p.run home n (st.memory.value? S.setting p n) := by
  unfold Memory.value?
  cases hc : st.memory.cell? p.run p.frames n with
  | some c => exact ⟨fun hn => absurd (h.cell ho hc).1 hn, fun _ => (h.cell ho hc).2⟩
  | none => exact h.means_global? ho

end InOrder

lemma keeps_value? (ho : W.homes[p.run]? = some home) :
    S.Keeps W (Action.value? S.setting p n) fun W' r => S.Means W' p.run home n r :=
  Keeps.get_bind fun _ hst => Keeps.pure (hst.means_value? ho)

/-! ### The journal -/

lemma InOrder.changeRun {change : Run → Run} (h : S.InOrder W st) (ho : W.homes[run]? = some home)
    (hsame : ∀ r, (change r).tree = r.tree ∧ (change r).given = r.given)
    (hchange : ∀ r : Run, (∀ f ∈ r.frames, FrameInOrder W run home f) →
      ∀ f ∈ (change r).frames, FrameInOrder W run home f) :
    S.InOrder W { st with memory.runs := st.memory.runs.modify run change } := by
  refine { h with homes_eq := ?_, runs := ?_ }
  · rw [← h.homes_eq]
    refine List.ext_getElem? fun i => ?_
    rw [List.getElem?_map, List.getElem?_map, Array.getElem?_toList, Array.getElem?_toList,
      Array.getElem?_modify]
    split_ifs
    · cases st.memory.runs[i]? <;> simp [hsame]
    · rfl
  · intro i r home' hr ho'
    rw [Array.getElem?_modify] at hr
    split_ifs at hr with hi
    · subst hi
      obtain ⟨old, hold, rfl⟩ := Option.map_eq_some_iff.mp hr
      cases ho.symm.trans ho'
      exact hchange old (h.runs run old home hold ho)
    · exact h.runs i r home' hr ho'

lemma keeps_changeFrame {number : Nat} {change : Template.Frame → Template.Frame}
    (ho : W.homes[run]? = some home)
    (hchange : ∀ f, FrameInOrder W run home f → FrameInOrder W run home (change f)) :
    S.Keeps W (Action.changeFrame run number change) fun _ _ => True := by
  refine fun st hst => ⟨W, le_rfl, hst.changeRun ho (fun _ => ⟨rfl, rfl⟩) fun r hr f hf => ?_,
    fun _ _ => trivial⟩
  obtain ⟨i, hi⟩ := Array.mem_iff_getElem?.mp hf
  dsimp only at hi
  rw [Array.getElem?_modify] at hi
  split_ifs at hi
  · obtain ⟨old, hold, rfl⟩ := Option.map_eq_some_iff.mp hi
    exact hchange old (hr old (Array.mem_of_getElem? hold))
  · exact hr f (Array.mem_of_getElem? hi)

variable {v : Value}

lemma keeps_define (ho : W.homes[p.run]? = some home) (hn : n ∈ boundAll home.tree)
    (hv : Suits W p.run home n v) : S.Keeps W (Action.define p n v) fun _ _ => True := by
  unfold Action.define
  split
  · exact Keeps.pure trivial
  · refine keeps_changeFrame ho fun f hf => ⟨fun entry he => ?_, hf.loopVariables⟩
    rcases Table.mem_of_mem_set he with he | rfl
    · exact hf.cells entry he
    · exact ⟨hn, by simpa using hv⟩

/-- The variables of a table belong to a template and suit it. -/
def AllSuit (W : World) (run : Nat) (home : Home) (t : Table Text Value) : Prop :=
  ∀ entry ∈ t, entry.1 ∈ boundAll home.tree ∧ Suits W run home entry.1 entry.2

lemma AllSuit.mono {W' : World} {t : Table Text Value} (hW : W ≤ W') (h : AllSuit W run home t) :
    AllSuit W' run home t :=
  fun entry he => ⟨(h entry he).1, (h entry he).2.mono hW⟩

lemma AllSuit.setAll {t new : Table Text Value} (h : AllSuit W run home t)
    (hnew : AllSuit W run home new) : AllSuit W run home (t.setAll new) :=
  fun entry he => (Table.mem_of_mem_setAll he).elim (h entry) (hnew entry)

lemma keeps_assign {values : Table Text Value} (ho : W.homes[p.run]? = some home)
    (hvalues : AllSuit W p.run home values) :
    S.Keeps W (Action.assign p values) fun _ _ => True := by
  unfold Action.assign
  refine Keeps.bind (Q := fun _ _ => True) (Keeps.forM fun W' hW entry he => ?_) fun W' _ hW _ => ?_
  · exact keeps_define (World.getElem?_homes hW ho) (hvalues entry he).1
      ((hvalues entry he).2.mono hW)
  · split
    · refine keeps_changeFrame (World.getElem?_homes hW ho) fun f hf => ⟨hf.cells, ?_⟩
      exact AllSuit.setAll hf.loopVariables (hvalues.mono hW)
    · exact Keeps.pure trivial

lemma keeps_beginRound (ho : W.homes[p.run]? = some home) :
    S.Keeps W (Action.beginRound p) fun _ _ => True :=
  keeps_changeFrame ho fun _ hf => ⟨hf.cells, fun _ he => by cases he⟩

/-! ### Entering blocks -/

lemma keeps_enter {kind : Action.BlockKind} {names : Names} {given : Table Text Value}
    (ho : W.homes[p.run]? = some home) (hnames : ∀ n ∈ names.set.keys, n ∈ boundAll home.tree)
    (hgiven : ∀ entry ∈ given, Suits W p.run home entry.1 entry.2) :
    S.Keeps W (Action.enter S.setting p kind names given) fun _ p' => p'.run = p.run := by
  refine keeps_of_home ho fun hhome => ?_
  unfold Action.enter
  refine Keeps.bind (Q := fun W' cells => ∀ entry ∈ cells, entry.1 ∈ boundAll home.tree ∧
    ∀ v ∈ entry.2, Suits W' p.run home entry.1 v) (Keeps.mapM ?_ ?_) ?_
  · exact fun W₁ W₂ entry hW h => ⟨h.1, fun v hv => (h.2 v hv).mono hW⟩
  · rintro W₁ hW ⟨n, fromOutside⟩ hmem
    have hn : n ∈ boundAll home.tree := hnames n (List.mem_map_of_mem hmem)
    have ho₁ := World.getElem?_homes hW ho
    dsimp only
    cases hvalue : given.get? n with
    | some v =>
      have hv := hgiven (n, v) (Table.mem_of_get? hvalue)
      exact Keeps.pure ⟨hn, by simpa using hv.mono hW⟩
    | none =>
      cases fromOutside with
      | false => exact Keeps.pure_bind (Keeps.pure ⟨hn, by simp⟩)
      | true =>
        refine (keeps_value? ho₁).bind fun W₂ r hW₂ hr => Keeps.pure ⟨hn, hr.suits ?_⟩
        rintro rfl
        exact not_isBindable (by simp) (hhome.isBindable hn)
  · intro W₁ cells hW hcells
    have ho₁ := World.getElem?_homes hW ho
    refine Keeps.get_bind fun st _ => ?_
    refine Keeps.bind (Q := fun _ _ => True) ?_ fun _ _ _ _ => Keeps.pure rfl
    refine fun st' hst' => ⟨W₁, le_rfl, hst'.changeRun ho₁ (fun _ => ⟨rfl, rfl⟩) fun r hr f hf => ?_,
      fun _ _ => trivial⟩
    rcases Array.mem_push.mp hf with hf | rfl
    · exact hr f hf
    · exact ⟨hcells, fun _ he => by cases he⟩

/-! ### Macros and templates -/

lemma keeps_addMacro {m : Macro} (hm : MacroInOrder W m home) :
    S.Keeps W (Action.addMacro m) fun W' k => W'.macros[k]? = some m := by
  intro st hst
  have hW : W ≤ { W with macros := W.macros ++ [m] } :=
    ⟨List.prefix_rfl, List.prefix_append _ _, List.suffix_rfl⟩
  have hsize : st.memory.macros.size = W.macros.length := by rw [← hst.macros_eq, Array.length_toList]
  refine ⟨{ W with macros := W.macros ++ [m] }, hW, ?_, ?_⟩
  · change S.InOrder _ { st with memory.macros := st.memory.macros.push m }
    exact {
      macros_eq := by simp [hst.macros_eq]
      macros := List.forall_mem_append.mpr
        ⟨fun m' hm' => (hst.macros m' hm').imp fun _ h => h.mono hW, by simpa using ⟨home, hm.mono hW⟩⟩
      homes_eq := hst.homes_eq
      homes := fun home hhome => (hst.homes home hhome).mono hW
      runs := fun i r home hr ho f hf => (hst.runs i r home hr ho f hf).mono hW
      journal_eq := hst.journal_eq
      obedient := hst.obedient
      functions := hst.functions }
  · rintro k hk
    cases hk
    simp [hsize]

end Session

end ComponentTags
