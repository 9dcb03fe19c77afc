/-
# How renderings end

What the engine notes makes no difference to how its answers and the templates that it starts end.  So a rendering
ends as the template of its component does, and puts out the same (`Session.render_of_putsOut`), unless the component
recovers from the failure of its template (`ended`).
-/
import ComponentTags.Proofs.Engine.Session
import ComponentTags.Proofs.Template.Places
import ComponentTags.Template.Call

namespace ComponentTags

open Template

/-! ### What the engine notes -/

section

variable {s : Setting} {call : Caller} {st : Store} {p : Place} {home : Running (List Statement)} {n : Text}

variable (s st p home n) in
/-- Looking up a name neither fails nor puts anything out. -/
lemma exists_lookUpName : ∃ st' : Store, lookUpName (L := language) s p home n st =
    (.ok (st.memory.lookUp? s p n), st') ∧ st.GoesOn st' ∧ st'.output = st.output :=
  ⟨_, rfl, .of_memory rfl, rfl⟩

/-- A template that is started puts out what it puts out when it runs. -/
lemma putsOut_startTemplate {r : Registration language} {v root functions : Value} {q : Except Failure Text}
    (h : ∀ st', st.GoesOn st' → st'.PutsOut
      (execTemplate s call r.template.tree (templateVariables r.type v root functions)) q) :
    st.PutsOut (startTemplate s call r v root functions) q := by
  let given := templateVariables r.type v root functions
  let st' : Store :=
    { st with owned := { st.owned with journal := .started ⟨r.template.tree, given⟩ :: st.owned.journal } }
  have hst : st.GoesOn st' := .of_memory rfl
  exact .of_bind rfl hst rfl (h st' hst)

/-- A call is answered as the engine acts on it. -/
lemma gives_answer {callee : Value} {vs : List Value} {act : Running (List Statement) → List Value → Action Value}
    {q : Except Failure Value} (h : ∀ home st', st.GoesOn st' → st'.Gives (act home vs) q) :
    st.Gives (answer (L := language) p callee { placed := vs } act) q := by
  let home := st.memory.running p
  let st' : Store :=
    { st with owned := { st.owned with journal := .called home callee { placed := vs } :: st.owned.journal } }
  have hst : st.GoesOn st' := .of_memory rfl
  have hresult : q = q >>= .ok := (bind_pure q).symm
  rw [hresult]
  refine .of_bind (v := st) rfl (.refl st) rfl (.of_bind rfl hst rfl ?_)
  refine (h home st' hst).gives_bind fun v _ st₁ _ => ?_
  exact .of_bind rfl (.of_memory rfl) rfl (Store.Gives.of_eq (r := .ok v) rfl)

end

/-! ### Recovering -/

/-- How a component ends whose template has ended. -/
def ended (component : Value) : Except Failure Text → Except Failure Text
  | .ok t => .ok t
  | .error f => recovered component f

lemma recovered_of_not_recovers {component : Value} (h : recovers component = false) (f : Failure) :
    recovered component f = .error f := by
  unfold recovers at h
  unfold recovered
  split at h
  · next hnever => rw [hnever]
  · cases h

/-- What an action puts out is held back, or it fails, and then it is lost. -/
lemma exists_captured {a : Action Unit} {q : Except Failure Text} (h : ∀ st : Store, st.PutsOut a q) (st : Store) :
    ∃ st' : Store, Action.captured a st = (q, st') ∧ st'.output = st.output := by
  have hrun := h { st with written := [] }
  unfold Action.captured
  cases q with
  | ok t =>
    obtain ⟨st', ha, -, hout⟩ := hrun
    refine ⟨{ st' with written := st.written }, ?_, rfl⟩
    rw [ha]
    exact congrArg (fun t => (Except.ok t, _)) hout
  | error f =>
    have ha : a { st with written := [] } = (.error f, (a { st with written := [] }).2) := Prod.ext hrun rfl
    refine ⟨{ (a { st with written := [] }).2 with written := st.written }, ?_, rfl⟩
    rw [ha]

namespace Session

variable {S : Session language} {q : Except Failure Text}

/-- The template of the component puts out something, from whatever store it runs. -/
def PutsOut (S : Session language) (q : Except Failure Text) : Prop :=
  ∀ st : Store, st.PutsOut (startTemplate S.setting (callOf S.engine.registered S.setting) S.registration
    S.component S.component S.functionsValue) q

lemma exists_renderInstance (h : S.PutsOut q) (st : Store) :
    ∃ st' : Store, renderInstance S.setting (callOf S.engine.registered S.setting) S.registration S.component S.component
      S.functionsValue st = (ended S.component q, st') ∧ st'.output = st.output := by
  obtain ⟨st', hrun, hout⟩ := exists_captured h st
  refine ⟨st', ?_, hout⟩
  rw [renderInstance, Action.recovering, hrun]
  cases q <;> rfl

/-- A rendering ends as its component does, which is put out. -/
lemma exists_rendering (h : S.PutsOut q) (st : Store) :
    ∃ st' : Store, S.engine.rendering S.registration S.component S.functions st = ((ended S.component q).map fun _ => (), st') ∧
      ∀ t, ended S.component q = .ok t → st'.output = st.output ++ t := by
  unfold Engine.rendering
  split
  · obtain ⟨st', hrun, hout⟩ := exists_renderInstance h st
    cases hended : ended S.component q with
    | error f =>
      refine ⟨st', Action.bind_of_error (hrun.trans (by rw [hended])) _, nofun⟩
    | ok t =>
      refine ⟨{ st' with written := t :: st'.written }, (Action.bind_of_ok (hrun.trans (by rw [hended])) _).trans rfl, ?_⟩
      rintro _ ⟨⟩
      rw [← hout]
      simp [Host.Store.output]
  · next hnever =>
    cases q with
    | ok t =>
      obtain ⟨st', hrun, -, hout⟩ := h st
      refine ⟨st', hrun, ?_⟩
      rintro _ ⟨⟩
      exact hout
    | error f =>
      have hended : ended S.component (.error f) = .error f :=
        recovered_of_not_recovers (Bool.eq_false_iff.mpr hnever) f
      rw [hended]
      exact ⟨_, Prod.ext (h st) rfl, nofun⟩

/-- What is put out by a whole rendering, and how it ends. -/
theorem render_of_putsOut (hlookUp : S.engine.lookUp S.component.typeName = .ok S.registration) (h : S.PutsOut q) :
    (S.engine.render S.component S.functions).result =
        ((ended S.component q).map fun _ => ()).mapError (Engine.wrapped S.registration.type.name) ∧
      ∀ t, ended S.component q = .ok t → (S.engine.render S.component S.functions).written = t := by
  obtain ⟨st', hrun, hout⟩ := exists_rendering h S.start
  have hrender : S.engine.render S.component S.functions =
      ⟨st'.output, ((ended S.component q).map fun _ => ()).mapError (Engine.wrapped S.registration.type.name),
        S.engine.after st'⟩ := by
    rw [Engine.render, hlookUp]
    dsimp only
    rw [show S.engine.store (S.functions.getD []) = S.start from rfl, hrun]
  rw [hrender]
  exact ⟨rfl, hout⟩

end Session

end ComponentTags
