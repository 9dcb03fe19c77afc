/-
# What actions keep

An action keeps stores in order (`Keeps`) if it leads from every store that is in order in a world to one
that is in order in the same world or in one that has grown, whether it fails or not.  What it gives if it
does not fail has a property in the new world.  What worlds are and when stores are in order is left open;
there is one rule for every way in which actions are put together.
-/
import ComponentTags.Engine.Render
import ComponentTags.Proofs.Value.Callables
import Mathlib.Order.Basic

namespace ComponentTags

open Template

variable {Tree Memory World : Type} [Preorder World]

/-- An action leads from a store in order to a store in order, and what it gives has a property. -/
def Keeps {α : Type} (InOrder : World → Host.Store Tree Memory → Prop) (W : World)
    (a : Host.Action Tree Memory α) (Q : World → α → Prop) : Prop :=
  ∀ st, InOrder W st →
    ∃ W', W ≤ W' ∧ InOrder W' (a st).2 ∧ ∀ v, (a st).1 = .ok v → Q W' v

/-- Whether a store is in order does not depend on what was put out. -/
class Unwritten (InOrder : World → Host.Store Tree Memory → Prop) : Prop where
  written : ∀ {W st ts}, InOrder W st → InOrder W { st with written := ts }

namespace Keeps

variable {InOrder : World → Host.Store Tree Memory → Prop} {W : World} {α β : Type}
  {a : Host.Action Tree Memory α} {k : α → Host.Action Tree Memory β} {Q R : World → α → Prop}
  {T : World → β → Prop}

/-! ### Actions one after the other -/

lemma pure {v : α} (h : Q W v) : Keeps InOrder W (pure v) Q :=
  fun _ hst => ⟨W, le_rfl, hst, fun w hw => by cases hw; exact h⟩

lemma of {r : Except Failure α} (h : Gives (Q W) r) : Keeps InOrder W (Action.of r) Q :=
  fun _ hst => ⟨W, le_rfl, hst, h⟩

lemma fail {f : Failure} : Keeps InOrder W (Action.fail f) Q :=
  fun _ hst => ⟨W, le_rfl, hst, fun _ hw => by cases hw⟩

lemma mono (h : Keeps InOrder W a Q) (hQ : ∀ W' v, W ≤ W' → Q W' v → R W' v) :
    Keeps InOrder W a R := by
  intro st hst
  obtain ⟨W', hW, hst', hv⟩ := h st hst
  exact ⟨W', hW, hst', fun v h => hQ W' v hW (hv v h)⟩

lemma any (h : Keeps InOrder W a Q) : Keeps InOrder W a fun _ _ => True :=
  h.mono fun _ _ _ _ => trivial

lemma bind (h : Keeps InOrder W a Q) (hk : ∀ W' v, W ≤ W' → Q W' v → Keeps InOrder W' (k v) T) :
    Keeps InOrder W (a >>= k) T := by
  intro st hst
  obtain ⟨W₁, hW₁, hst₁, hv⟩ := h st hst
  simp only [Bind.bind, ExceptT.bind, ExceptT.mk, StateT.bind]
  rcases ha : a st with ⟨f | v, st₁⟩
  · rw [ha] at hst₁
    exact ⟨W₁, hW₁, hst₁, fun v hv => by cases hv⟩
  · rw [ha] at hst₁ hv
    obtain ⟨W₂, hW₂, hst₂, hw⟩ := hk W₁ v hW₁ (hv v rfl) st₁ hst₁
    exact ⟨W₂, hW₁.trans hW₂, hst₂, hw⟩

/-- A computed value is passed on in the same world. -/
lemma of_bind {r : Except Failure α} (h : Gives (fun v => Keeps InOrder W (k v) T) r) :
    Keeps InOrder W (Action.of r >>= k) T := by
  cases r with
  | error f => exact fun st hst => ⟨W, le_rfl, hst, fun _ hw => by cases hw⟩
  | ok v => exact h v rfl

/-- A value is passed on as it is. -/
lemma pure_bind {v : α} (h : Keeps InOrder W (k v) T) : Keeps InOrder W (Pure.pure v >>= k) T := h

/-- What is read of the store is passed on in the same world. -/
lemma get_bind {k : Host.Store Tree Memory → Host.Action Tree Memory β}
    (h : ∀ st, InOrder W st → Keeps InOrder W (k st) T) : Keeps InOrder W (get >>= k) T :=
  fun st hst => h st hst st hst

lemma recovering {other : Failure → Host.Action Tree Memory α} (h : Keeps InOrder W a Q)
    (hother : ∀ W' f, W ≤ W' → Keeps InOrder W' (other f) Q) :
    Keeps InOrder W (Action.recovering a other) Q := by
  intro st hst
  obtain ⟨W₁, hW₁, hst₁, hv⟩ := h st hst
  unfold Action.recovering
  rcases ha : a st with ⟨f | v, st₁⟩
  · rw [ha] at hst₁
    obtain ⟨W₂, hW₂, hst₂, hw⟩ := hother W₁ f hW₁ st₁ hst₁
    exact ⟨W₂, hW₁.trans hW₂, hst₂, hw⟩
  · rw [ha] at hst₁ hv
    exact ⟨W₁, hW₁, hst₁, hv⟩

lemma attempt (h : Keeps InOrder W a Q) :
    Keeps InOrder W (Action.attempt a) fun W' r => ∀ v, r = .ok v → Q W' v := by
  intro st hst
  obtain ⟨W₁, hW₁, hst₁, hv⟩ := h st hst
  unfold Action.attempt
  rcases ha : a st with ⟨r, st₁⟩
  rw [ha] at hst₁ hv
  exact ⟨W₁, hW₁, hst₁, fun r hr => by cases hr; exact hv⟩

lemma unnamed {arguments : Arguments} {act : List Value → Host.Action Tree Memory α}
    (h : arguments.named = [] → Keeps InOrder W (act arguments.placed) Q) :
    Keeps InOrder W (Action.unnamed arguments act) Q := by
  unfold Action.unnamed
  split
  · next hnamed => exact h hnamed
  · exact fail

/-! ### Output -/

section

variable [Unwritten InOrder]

lemma put {t : Text} : Keeps InOrder W (Action.put t) fun _ _ => True :=
  fun _ hst => ⟨W, le_rfl, Unwritten.written hst, fun _ _ => trivial⟩

lemma captured {a : Host.Action Tree Memory Unit} {Q : World → Unit → Prop}
    (h : Keeps InOrder W a Q) : Keeps InOrder W (Action.captured a) fun _ _ => True := by
  intro st hst
  obtain ⟨W₁, hW₁, hst₁, hv⟩ := h { st with written := [] } (Unwritten.written hst)
  unfold Action.captured
  rcases ha : a { st with written := [] } with ⟨f | v, st₁⟩ <;> rw [ha] at hst₁ <;>
    exact ⟨W₁, hW₁, Unwritten.written hst₁, fun _ _ => trivial⟩

end

/-! ### Lists -/

lemma mapM {f : α → Host.Action Tree Memory β} {xs : List α}
    (hT : ∀ W W' y, W ≤ W' → T W y → T W' y)
    (h : ∀ W', W ≤ W' → ∀ x ∈ xs, Keeps InOrder W' (f x) T) :
    Keeps InOrder W (xs.mapM f) fun W' ys => ∀ y ∈ ys, T W' y := by
  induction xs generalizing W with
  | nil => exact pure (by simp)
  | cons x rest ih =>
    rw [List.mapM_cons]
    refine (h W le_rfl x List.mem_cons_self).bind fun W₁ y hW₁ hy => ?_
    refine (ih fun W' hW' x hx => h W' (hW₁.trans hW') x (List.mem_cons_of_mem _ hx)).bind ?_
    exact fun W₂ ys hW₂ hys => pure (List.forall_mem_cons.mpr ⟨hT W₁ W₂ y hW₂ hy, hys⟩)

lemma forM {f : α → Host.Action Tree Memory Unit} {xs : List α}
    (h : ∀ W', W ≤ W' → ∀ x ∈ xs, Keeps InOrder W' (f x) fun _ _ => True) :
    Keeps InOrder W (xs.forM f) fun _ _ => True := by
  induction xs generalizing W with
  | nil => exact pure trivial
  | cons x rest ih =>
    refine (h W le_rfl x List.mem_cons_self).bind fun W₁ _ hW₁ _ => ?_
    exact ih fun W' hW' x hx => h W' (hW₁.trans hW') x (List.mem_cons_of_mem _ hx)

lemma allM {f : α → Host.Action Tree Memory Bool} {xs : List α}
    (h : ∀ W', W ≤ W' → ∀ x ∈ xs, Keeps InOrder W' (f x) fun _ _ => True) :
    Keeps InOrder W (xs.allM f) fun _ _ => True := by
  induction xs generalizing W with
  | nil => exact pure trivial
  | cons x rest ih =>
    refine (h W le_rfl x List.mem_cons_self).bind fun W₁ b hW₁ _ => ?_
    cases b with
    | false => exact pure trivial
    | true => exact ih fun W' hW' x hx => h W' (hW₁.trans hW') x (List.mem_cons_of_mem _ hx)

end Keeps

end ComponentTags
