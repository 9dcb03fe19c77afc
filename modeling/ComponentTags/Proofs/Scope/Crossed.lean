/-
# Walking over a text

The spans of a text are found by walking over it from the front: a character at which no span begins is
passed by itself, a span is passed as a whole.  The walk comes by some places of the text and not by
others, which are inside of spans (`Crosses`).  What lies between two places that it comes by consists of
whole spans and characters outside of them (`Crosses.unbroken_between`), although the text is cut there and
the spans of the part are looked for in the part alone.
-/
import ComponentTags.Proofs.Scope.Pieces

namespace ComponentTags

open Delimiters (standard)
open ComponentTags.Span (Inside Whole IsSkipped enclosed)

/-! ### Places outside of spans -/

/-- The walk over a text comes by the place behind its first `n` characters.  A strict walk meets no
spans but expressions. -/
inductive Crosses (strict : Bool) : Text → Nat → Prop
  | zero {text : Text} : Crosses strict text 0
  | character {c : Char} {rest : Text} {n : Nat} (hkind : Span.kindAt? standard (c :: rest) = none)
      (next : Crosses strict rest n) : Crosses strict (c :: rest) (n + 1)
  | span {text : Text} {kind : SpanKind} {m n : Nat} (hkind : Span.kindAt? standard text = some kind)
      (hstrict : strict = true → kind = .expression)
      (hlength : Span.length standard false text = .ok m)
      (next : Crosses strict (text.drop m) n) : Crosses strict text (m + n)

/-- The spans of a text end in it. -/
def Unbroken (text : Text) : Prop := ∃ ps, pieces standard 0 text = .ok ps

/-- A piece of the value of an attribute is a character or an expression. -/
def Piece.IsPart : Piece → Prop
  | .verbatim text => text.length = 1
  | .span kind _ => kind = .expression

/-- A text may be the value of an attribute: all its spans are expressions and end in it. -/
def IsValue (value : Text) : Prop := ∃ ps, Splits value ps ∧ ∀ piece ∈ ps, piece.IsPart

variable {strict : Bool} {text rest : Text} {c : Char} {m n : Nat}

lemma unbroken_iff : Unbroken text ↔ ∃ ps, Splits text ps :=
  exists_congr fun _ => pieces_eq_ok_iff

/-! #### Spans at a place -/

/-- All spans begin with the same character. -/
lemma kindAt?_eq_none_of_ne (hc : c ≠ '\x7b') : Span.kindAt? standard (c :: rest) = none := by
  by_contra hsome
  obtain ⟨kind, hkind⟩ := Option.ne_none_iff_exists'.mp hsome
  have hstart := Span.kindAt?_eq_some_iff.mp hkind
  cases kind with
  | expression | statement | comment => exact hc (List.cons_prefix_cons.mp hstart).1.symm

/-- Where no span begins in a text, none begins in a part of it. -/
lemma kindAt?_take_eq_none (h : Span.kindAt? standard (c :: rest) = none) (n : Nat) :
    Span.kindAt? standard (c :: rest.take n) = none := by
  cases n with
  | zero =>
    by_contra hsome
    obtain ⟨kind, hkind⟩ := Option.ne_none_iff_exists'.mp hsome
    have hle := (Span.kindAt?_eq_some_iff.mp hkind).length_le
    rw [Span.length_start] at hle
    simp at hle
  | succ n => exact Span.kindAt?_eq_none_of_head h (by cases rest <;> rfl)

/-- A span has characters. -/
lemma length_pos_of_kindAt? {kind : SpanKind} (hkind : Span.kindAt? standard text = some kind)
    (hlength : Span.length standard false text = .ok n) : 0 < n ∧ n ≤ text.length := by
  obtain ⟨span, behind, rfl, rfl, hwhole, -⟩ := Span.whole_of_length hkind hlength
  have hle := (Span.kindAt?_eq_some_iff.mp (hwhole.kindAt?_eq [])).length_le
  rw [Span.length_start, List.append_nil] at hle
  rw [List.length_append]
  omega

namespace Crosses

lemma lenient (h : Crosses strict text n) : Crosses false text n := by
  induction h with
  | zero => exact .zero
  | character hkind _ ih => exact .character hkind ih
  | span hkind _ hlength _ ih => exact .span hkind (by simp) hlength ih

lemma one (hkind : Span.kindAt? standard (c :: rest) = none) : Crosses strict (c :: rest) 1 :=
  .character hkind .zero

lemma whole {kind : SpanKind} (hkind : Span.kindAt? standard text = some kind)
    (hlength : Span.length standard false text = .ok n) : Crosses false text n := by
  rw [← Nat.add_zero n]
  exact .span hkind (by simp) hlength .zero

/-- A walk goes on where another one has ended. -/
lemma trans (h : Crosses strict text m) (h' : Crosses strict (text.drop m) n) :
    Crosses strict text (m + n) := by
  induction h with
  | zero =>
    rw [Nat.zero_add]
    exact h'
  | @character c rest k hkind _ ih =>
    rw [Nat.add_right_comm]
    exact .character hkind (ih h')
  | @span text kind k l hkind hstrict hlength _ ih =>
    rw [← List.drop_drop] at h'
    rw [Nat.add_assoc]
    exact .span hkind hstrict hlength (ih h')

lemma length_le (h : Crosses strict text n) : n ≤ text.length := by
  induction h with
  | zero => exact Nat.zero_le _
  | character _ _ ih => simpa using ih
  | span hkind _ hlength _ ih =>
    have hle := (length_pos_of_kindAt? hkind hlength).2
    rw [List.length_drop] at ih
    omega

/-- There is one walk over a text only, so it leads from one place that it comes by to the next. -/
lemma drop {strict' : Bool} (h : Crosses strict text m) (h' : Crosses strict' text n) (hle : m ≤ n) :
    Crosses strict' (text.drop m) (n - m) := by
  induction h generalizing n with
  | zero => exact h'
  | @character c rest k hkind _ ih =>
    cases h' with
    | zero => omega
    | @character _ _ l _ next =>
      have hnext := ih next (by omega)
      rwa [List.drop_succ_cons, Nat.add_sub_add_right]
    | span hkind' =>
      rw [hkind] at hkind'
      cases hkind'
  | @span text kind k l hkind _ hlength _ ih =>
    have hpos := (length_pos_of_kindAt? hkind hlength).1
    cases h' with
    | zero => omega
    | character hkind' =>
      rw [hkind] at hkind'
      cases hkind'
    | span _ _ hlength' next =>
      rw [hlength] at hlength'
      cases hlength'
      have hnext := ih next (by omega)
      rwa [List.drop_drop, Nat.add_sub_add_left] at *

/-! ### Parts of a text -/

/-- What the walk has passed is a text of its own with the same spans. -/
lemma splits_take (h : Crosses strict text n) :
    ∃ ps, Splits (text.take n) ps ∧ (strict = true → ∀ piece ∈ ps, piece.IsPart) := by
  induction h with
  | zero => exact ⟨[], .nil, by simp⟩
  | @character c rest n hkind _ ih =>
    obtain ⟨ps, hsplits, hparts⟩ := ih
    refine ⟨_, .character (kindAt?_take_eq_none hkind n) hsplits, fun hstrict => ?_⟩
    rw [List.forall_mem_cons]
    exact ⟨rfl, hparts hstrict⟩
  | @span text kind m n hkind hstrict hlength _ ih =>
    obtain ⟨ps, hsplits, hparts⟩ := ih
    obtain ⟨span, behind, rfl, rfl, hwhole, hinside⟩ := Span.whole_of_length hkind hlength
    rw [List.drop_left] at hsplits
    rw [List.take_length_add_append]
    by_cases hskip : IsSkipped kind span
    · refine ⟨_, .skipped hwhole hskip hsplits, fun hs => ?_⟩
      -- an expression is not skipped
      obtain rfl := hstrict hs
      rcases hskip with hcomment | ⟨hstatement, -⟩
      · cases hcomment
      · cases hstatement
    · obtain hskip' | ⟨inside, rfl, hinside⟩ := hinside
      · exact absurd hskip' hskip
      · refine ⟨_, .span hinside hskip hsplits, fun hs => ?_⟩
        rw [List.forall_mem_cons]
        exact ⟨hstrict hs, hparts hs⟩

lemma isValue_take (h : Crosses true text n) : IsValue (text.take n) := by
  obtain ⟨ps, hsplits, hparts⟩ := h.splits_take
  exact ⟨ps, hsplits, hparts rfl⟩

/-- The walk comes by the end of a text if no span is cut there. -/
lemma length_iff : Crosses false text text.length ↔ Unbroken text := by
  constructor
  · intro h
    obtain ⟨ps, hsplits, -⟩ := h.splits_take
    rw [List.take_length] at hsplits
    exact unbroken_iff.mpr ⟨ps, hsplits⟩
  · intro h
    obtain ⟨ps, hsplits⟩ := unbroken_iff.mp h
    have hspan : ∀ {kind : SpanKind} {span rest : Text}, Whole kind span →
        Crosses false rest rest.length → Crosses false (span ++ rest) (span ++ rest).length := by
      intro kind span rest hwhole hrest
      rw [List.length_append]
      refine (whole (hwhole.kindAt?_eq rest) (hwhole.length_eq rest)).trans ?_
      rwa [List.drop_left]
    clear h
    induction hsplits with
    | nil => exact .zero
    | character hkind _ ih => exact .character hkind ih
    | skipped hwhole _ _ ih => exact hspan hwhole ih
    | span hinside hnot _ ih => exact hspan (Span.whole_enclosed hinside hnot) ih

/-- No span is cut between two places that the walk comes by. -/
lemma unbroken_between {strict' : Bool} (h : Crosses strict text m) (h' : Crosses strict' text n)
    (hle : m ≤ n) : Unbroken ((text.drop m).take (n - m)) := by
  obtain ⟨ps, hsplits, -⟩ := (h.drop h' hle).splits_take
  exact unbroken_iff.mpr ⟨ps, hsplits⟩

end Crosses

end ComponentTags
