/-
# What is asked of a template language

Nothing is known of a template language but that it keeps to rules (`Language.IsLawful`).  Templates that run
change what belongs to the engine only by calls.  A template that does with names what it may calls the
function that renders components only as lowering writes it: it passes on a value that is no context, a new
context of `this` and `root`, the context of its content, or this one with further variables.  Names that a
template does not bind stand for the variables it was given, or else for what every template knows.

The rules are about the journal of a rendering: what a template passes on must have happened to it before.
-/
import ComponentTags.Proofs.Engine.Session

namespace ComponentTags

open Template

variable {L : Language}

namespace Session

variable (S : Session L)

/-! ### Rules for templates -/

/-- A value is that of a name in a template, unless the template binds the name. -/
def StandsFor (home : Running L.Tree) (n : Text) (v : Value) : Prop :=
  n ∉ L.bound home.tree → v = S.meaning home n

/-- The entries of captured variables: names with their values. -/
def Captures (home : Running L.Tree) (es : List (Value × Value)) : Prop :=
  ∀ e ∈ es, ∃ n, e.1 = .text n ∧ S.StandsFor home n e.2

/-- A template passes on a value as the context of a content, after what has happened so far. -/
inductive Carries (home : Running L.Tree) (earlier : List (Event L.Tree)) : Value → Prop where
  /-- The value is no context. -/
  | other {v : Value} (h : ∀ dot root locals, v ≠ .context dot root locals) : Carries home earlier v
  /-- It was made of `this`, `root` and captured variables. -/
  | fresh {this root v : Value} {es : List (Value × Value)} (hthis : S.StandsFor home thisName this)
    (hroot : S.StandsFor home rootName root) (hes : S.Captures home es)
    (h : .answered home (.callable .scopeMaker) ⟨[this, root, .dict es], []⟩ v ∈ earlier) :
    Carries home earlier v
  /-- It is the context of a content of the template. -/
  | passed {v : Value} (h : .entered home v ∈ earlier) : Carries home earlier v
  /-- It was made of the context of a content of the template and further variables. -/
  | extended {c v : Value} {es : List (Value × Value)} (hc : .entered home c ∈ earlier)
    (hes : S.Captures home es) (h : .answered home (.method c "extend") ⟨[.dict es], []⟩ v ∈ earlier) :
    Carries home earlier v

/-- What happens next keeps to the rules. -/
def Follows (earlier : List (Event L.Tree)) : Event L.Tree → Prop
  | .called home (.callable .renderer) ⟨[_, _, _, carrier], []⟩ =>
    .started home ∈ earlier ∧ S.Carries home earlier carrier
  | .found home n v => n ∉ L.bound home.tree → v = S.resolved home n
  | _ => True

/-- Everything that has happened keeps to the rules. -/
def Obedient : List (Event L.Tree) → Prop
  | [] => True
  | e :: earlier => S.Follows earlier e ∧ Obedient earlier

end Session

/-! ### Lawful languages -/

/-- An action changes what belongs to the engine only as a relation says. -/
def Host.Action.Changes {Tree Memory α : Type} (R : Host.Owned Tree → Host.Owned Tree → Prop)
    (a : Host.Action Tree Memory α) : Prop :=
  ∀ st, R st.owned (a st).2.owned

lemma Language.not_mem_bound {t : L.Tree} {n : Text} (h : ∀ m ∈ L.mentions t, m.IsAllowed)
    (hn : n ∈ [thisName, rootName, functionsName, renderFunction, scopeFunction]) : n ∉ L.bound t := by
  intro hbound
  obtain ⟨m, hm, hmem⟩ := List.mem_flatMap.mp hbound
  exact not_isBindable hn ((h m hm).isBindable hmem)

namespace Session

variable {S : Session L} {J : List (Event L.Tree)} {e : Event L.Tree}

lemma Carries.mono {home : Running L.Tree} {J' : List (Event L.Tree)} {v : Value} (h : S.Carries home J v)
    (hJ : J ⊆ J') : S.Carries home J' v := by
  cases h with
  | other h => exact .other h
  | fresh hthis hroot hes h => exact .fresh hthis hroot hes (hJ h)
  | passed h => exact .passed (hJ h)
  | extended hc hes h => exact .extended (hJ hc) hes (hJ h)

end Session

end ComponentTags
