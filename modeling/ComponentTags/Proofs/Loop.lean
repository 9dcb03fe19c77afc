/-
# Loops over a text

A reader is a loop: in each round it either moves on or has its result.  A loop is run for a number of
rounds (`Loop.run`), and nothing but a result ends it before.  If its rounds move on to later places of one
text (`Loop.MovesOn`), then it ends within one round more than there are characters left, and it computes
every function that its rounds keep (`Loop.Proceeds.computes`).
-/
import ComponentTags.Text.Basic
import Mathlib.Logic.Relation
import Mathlib.Tactic.Common

namespace ComponentTags

/-- How far a reader has come. -/
structure Cursor (α : Type) where
  /-- The place that was reached. -/
  place : Nat
  /-- What follows the place. -/
  rest : Text
  /-- What was found in front of it. -/
  found : α

namespace Loop

variable {σ ρ : Type}

/-- The result of a loop, if it has one within a number of rounds. -/
def run (round : σ → σ ⊕ ρ) : Nat → σ → Option ρ
  | 0, _ => none
  | count + 1, x =>
    match round x with
    | .inl y => run round count y
    | .inr r => some r

/-- A state of a loop stands at a later place of the same text than another one, which does not stand at the
end of the text. -/
def Later (place : σ → Nat) (rest : σ → Text) (x y : σ) : Prop :=
  rest x ≠ [] ∧ place x < place y ∧ rest y = (rest x).drop (place y - place x)

/-- Each round that does not end a loop leads to a later place of the text. -/
def MovesOn (place : σ → Nat) (rest : σ → Text) (round : σ → σ ⊕ ρ) : Prop :=
  ∀ ⦃x y : σ⦄, round x = .inl y → Later place rest x y

/-- Each round of a loop leads to a later place of the text or has a result of some kind. -/
def Proceeds (place : σ → Nat) (rest : σ → Text) (round : σ → σ ⊕ ρ) (P : ρ → Prop) : Prop :=
  ∀ x, (round x).elim (Later place rest x) P

/-- A loop whose rounds move on ends with the value of a function, within one round more than there are
characters left. -/
structure Computes (place : σ → Nat) (rest : σ → Text) (round : σ → σ ⊕ ρ) (f : σ → ρ) : Prop where
  movesOn : MovesOn place rest round
  run_eq : ∀ x, run round ((rest x).length + 1) x = some (f x)

/-- A round that passes at least one character moves on. -/
lemma later_of_pos {α : Type} {place n : Nat} {text : Text} {a b : α} (hne : text ≠ []) (hn : 0 < n) :
    Later Cursor.place Cursor.rest ⟨place, text, a⟩ ⟨place + n, text.drop n, b⟩ :=
  ⟨hne, Nat.lt_add_of_pos_right hn, by simp only [Nat.add_sub_cancel_left]⟩

variable {place : σ → Nat} {rest : σ → Text} {round : σ → σ ⊕ ρ} {f : σ → ρ} {P : ρ → Prop} {x y : σ}

/-- There are fewer characters left at a later place. -/
lemma Later.length_lt (h : Later place rest x y) : (rest y).length < (rest x).length := by
  obtain ⟨hne, hplace, hrest⟩ := h
  have hpos : 0 < (rest x).length := List.length_pos_iff.mpr hne
  rw [hrest, List.length_drop]
  omega

namespace Proceeds

lemma movesOn (h : Proceeds place rest round P) : MovesOn place rest round := by
  intro x y hround
  have hx := h x
  rwa [hround] at hx

/-- A loop ends, and what it ends with is the value of each function that its rounds keep. -/
lemma run_eq (h : Proceeds place rest round P) (heq : ∀ x, f x = (round x).elim f id) {count : Nat}
    (hcount : (rest x).length < count) : run round count x = some (f x) ∧ P (f x) := by
  induction count generalizing x with
  | zero => exact absurd hcount (Nat.not_lt_zero _)
  | succ count ih =>
    have hx := h x
    rw [run, heq]
    cases hround : round x with
    | inl y =>
      rw [hround] at hx
      have hlt := hx.length_lt
      exact ih (by omega)
    | inr r =>
      rw [hround] at hx
      exact ⟨rfl, hx⟩

lemma computes (h : Proceeds place rest round P) (heq : ∀ x, f x = (round x).elim f id) :
    Computes place rest round f :=
  ⟨h.movesOn, fun _ => (h.run_eq heq (Nat.lt_succ_self _)).1⟩

/-- What a loop computes is the result of one of its rounds. -/
lemma result (h : Proceeds place rest round P) (heq : ∀ x, f x = (round x).elim f id) (x : σ) : P (f x) :=
  (h.run_eq heq (Nat.lt_succ_self (rest x).length)).2

end Proceeds

/-- One state of a loop leads to another one by some rounds. -/
def Leads (round : σ → σ ⊕ ρ) : σ → σ → Prop :=
  Relation.ReflTransGen fun x y => round x = .inl y

end Loop

end ComponentTags
