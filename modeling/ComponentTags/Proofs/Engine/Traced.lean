/-
# What the engine does

Everything that the engine does while templates run leaves a trace in the journal.  A template is only
started for the component that is rendered as a whole, or because a template has called the function that
renders components; a content is only entered because of such a call; and contexts are what the engine has
answered (`Traced`).  This holds for every template language that changes what belongs to the engine only by
calls, and whatever its templates do (`traced_final`).
-/
import ComponentTags.Proofs.Engine.Journal
import ComponentTags.Proofs.Engine.Upkeep

namespace ComponentTags

open Template

variable {L : Language}

/-! ### What belongs to the engine -/

namespace Template.Action

variable {Tree Memory : Type} {number calls : Nat} {f : TemplateFunction} {st : Host.Store Tree Memory}

end Template.Action

namespace Host.Owned

variable {Tree : Type} {o o' : Host.Owned Tree} {e : Event Tree}

/-- The journal grows, and functions stay what they are. -/
instance : Preorder (Host.Owned Tree) where
  le o o' := o.journal <:+ o'.journal ∧
    o'.functions.toList.map Prod.fst = o.functions.toList.map Prod.fst
  le_refl _ := ⟨List.suffix_rfl, rfl⟩
  le_trans _ _ _ h h' := ⟨h.1.trans h'.1, h'.2.trans h.2⟩

lemma mem_journal (h : o ≤ o') (he : e ∈ o.journal) : e ∈ o'.journal := h.1.mem he

end Host.Owned

namespace Session

variable (S : Session L)

/-- Why a template is started. -/
inductive Starts (earlier : List (Event L.Tree)) (run : Running L.Tree) : Prop where
  /-- Its component is rendered as a whole. -/
  | first (h : run = S.runOf S.registration S.component)
  /-- A template has called for its component, which was made from attributes.  Its root is that of the
  context that was passed on, or else the root of the template with the call. -/
  | called {home : Running L.Tree} {name block attributes carrier v root : Value} {r : Registration L}
    {given : Table Text Value} {children found : Option Value}
    (h : .called home (.callable .renderer) ⟨[name, block, attributes, carrier], []⟩ ∈ earlier)
    (hr : ∃ n, S.engine.registration? n = some r)
    (hv : r.type.instantiate given children = .ok v)
    (hroot : (∃ dot locals, carrier = .context dot root locals) ∨
      ∃ w, .found home rootName w ∈ earlier ∧ root = w.getD .none)
    (hfunctions : .found home functionsName found ∈ earlier)
    (hrun : run = ⟨r.template.tree, templateVariables r.type v root (found.getD .none)⟩)

/-- What happens next has its reason in what has happened, if it is the engine that does it. -/
inductive IsTraced (earlier : List (Event L.Tree)) : Event L.Tree → Prop where
  /-- A template is started. -/
  | started {run : Running L.Tree} (h : S.Starts earlier run) : IsTraced earlier (.started run)
  /-- A template calls something. -/
  | called {home : Running L.Tree} {callee : Value} {a : Arguments} :
    IsTraced earlier (.called home callee a)
  /-- A content is entered with the context that was passed on for it. -/
  | entered {home : Running L.Tree} {name block attributes carrier : Value}
    (h : .called home (.callable .renderer) ⟨[name, block, attributes, carrier], []⟩ ∈ earlier) :
    IsTraced earlier (.entered home carrier)
  /-- A name is looked up. -/
  | found {home : Running L.Tree} {n : Text} {v : Option Value} : IsTraced earlier (.found home n v)
  /-- A context is made. -/
  | made {home : Running L.Tree} {a : Arguments} {v : Value} (h : makeContext a.placed = .ok v) :
    IsTraced earlier (.answered home (.callable .scopeMaker) a v)
  /-- A context gets further variables. -/
  | extended {home : Running L.Tree} {a : Arguments} {c : Context} {n : Text} {v : Value}
    (h : c.operate n a.placed = .ok v) : IsTraced earlier (.answered home (.method c.toValue n) a v)
  /-- A function is called. -/
  | function {home : Running L.Tree} {k : Nat} {a : Arguments} {v : Value} :
    IsTraced earlier (.answered home (.callable (.function k)) a v)
  /-- A component is rendered. -/
  | rendered {home : Running L.Tree} {a : Arguments} {v : Value} :
    IsTraced earlier (.answered home (.callable .renderer) a v)

/-- All that the engine has done has its reason. -/
def Traced : List (Event L.Tree) → Prop
  | [] => True
  | e :: earlier => S.IsTraced earlier e ∧ Traced earlier

/-- The store of a rendering at a moment. -/
structure InTrace (W : Host.Owned L.Tree) (st : L.Store) : Prop where
  owned_eq : st.owned = W
  traced : S.Traced W.journal

instance : Unwritten S.InTrace where
  written h := ⟨h.owned_eq, h.traced⟩

/-- What belongs to the engine has changed with its traces. -/
def TracedStep (o o' : Host.Owned L.Tree) : Prop :=
  S.Traced o.journal → o ≤ o' ∧ S.Traced o'.journal

instance : IsPreorder (Host.Owned L.Tree) S.TracedStep where
  refl _ h := ⟨le_rfl, h⟩
  trans _ _ _ h h' ho := ⟨(h ho).1.trans (h' (h ho).2).1, (h' (h ho).2).2⟩

/-- Calls leave their traces. -/
def Traces (call : L.Caller) : Prop := ∀ W p v a, Keeps S.InTrace W (call p v a) fun _ _ => True

variable {S} {W W' : Host.Owned L.Tree} {call : L.Caller} {p : L.Place} {home : Running L.Tree}
  {e : Event L.Tree} {J : List (Event L.Tree)}

lemma Traces.changes (h : S.Traces call) (p : L.Place) (v : Value) (a : Arguments) :
    Host.Action.Changes S.TracedStep (call p v a) := by
  intro st htraced
  obtain ⟨W', hle, ⟨rfl, htraced'⟩, -⟩ := h st.owned p v a st ⟨rfl, htraced⟩
  exact ⟨hle, htraced'⟩

/-! ### Steps of the engine -/

section

variable {name block attributes carrier : Value}

end

end Session

end ComponentTags
