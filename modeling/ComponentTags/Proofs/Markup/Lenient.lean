/-
# Lenient reading

A tag is read strictly when it is the tag of a known component and leniently otherwise.  What the
strict reading accepts the lenient one accepts as well, and it finds the same attributes and the same
end of the tag (`attributes_lenient`).  A name may therefore be unknown when a template is read first
and known later without any place of the template moving (`attributes_refine`).

The two readings only part where the strict one fails, so each lemma follows the strict function and
takes the lenient one along.
-/
import ComponentTags.Markup.Attributes
import ComponentTags.Proofs.Table

namespace ComponentTags

namespace Span

/-- A span in which no expression begins ends at the same place when expressions may begin in it. -/
lemma bodyLength_lenient {d : Delimiters} {kind : SpanKind} {depth count n : Nat} {text : Text}
    (h : bodyLength d kind true depth count text = .ok n) :
    bodyLength d kind false depth count text = .ok n := by
  fun_induction bodyLength d kind true depth count text with
  | case1 => cases h
  | case2 depth count c rest hquote k ih =>
    rw [bodyLength, if_pos hquote]
    exact ih h
  | case3 depth count c rest hquote hstop =>
    rw [bodyLength, if_neg hquote, if_pos hstop]
    exact h
  | case4 => cases h
  | case5 depth count c rest hquote hstop hnested ih =>
    -- the test for a nested expression is the only one that the lenient function lacks
    rw [bodyLength, if_neg hquote, if_neg hstop]
    simpa using ih h

lemma length_lenient {d : Delimiters} {strict : Bool} {n : Nat} {text : Text}
    (h : length d strict text = .ok n) : length d false text = .ok n := by
  cases strict with
  | false => exact h
  | true =>
    unfold length at h ⊢
    split at h
    · exact h
    · exact h
    · rename_i kind hkind hne
      split at h
      · rename_i hraw
        rw [if_pos hraw]
        exact h
      · rename_i hraw
        rw [if_neg hraw]
        exact bodyLength_lenient h

end Span

namespace Markup

variable {d : Delimiters} {tag name text : Text}

lemma quotedLength_lenient {quote : Char} {count n : Nat}
    (h : quotedLength d tag name true quote count text = .ok n) :
    quotedLength d tag name false quote count text = .ok n := by
  fun_induction quotedLength d tag name true quote count text with
  | case1 => cases h
  | case2 count rest =>
    rw [quotedLength, if_pos rfl]
    exact h
  | case3 count c rest hc hkind ih =>
    rw [quotedLength, if_neg hc, hkind]
    exact ih h
  | case4 | case5 | case6 => cases h
  | case7 count c rest hc kind hkind hexpression k hlength ih =>
    rw [quotedLength, if_neg hc, hkind]
    simp only [Bool.false_and, Bool.false_eq_true, if_false, Span.length_lenient hlength]
    exact ih h

lemma value_lenient {v : Text} {n : Nat} (h : value d tag name true text = .ok (v, n)) :
    value d tag name false text = .ok (v, n) := by
  cases text with
  | nil => simp [value, value.bare] at h
  | cons c rest =>
    simp only [value] at h ⊢
    split at h
    · rename_i hquote
      rw [if_pos hquote]
      split at h
      · cases h
      · rename_i k hlength
        simpa only [quotedLength_lenient hlength] using h
    · simp [value.bare] at h

lemma assigned_lenient {v : Text} {n : Nat} (h : assigned d tag name true text = .ok (v, n)) :
    assigned d tag name false text = .ok (v, n) := by
  simp only [assigned] at h ⊢
  split
  · rename_i rest hrest
    simp only [hrest] at h
    split at h
    · cases h
    · rename_i w k hvalue
      simpa only [value_lenient hvalue] using h
  · rename_i hother
    split at h
    · rename_i rest hrest
      exact absurd hrest (hother rest)
    · exact h

/-- What is read strictly is read leniently to the same end and with the same attributes. -/
lemma attributes_lenient {count : Nat} {entries : Table Text Text} {a : Attributes}
    (h : attributes d tag true count entries text = .ok a) :
    attributes d tag false count entries text = .ok a := by
  fun_induction attributes d tag true count entries text with
  | case1 => cases h
  | case2 count entries c rest hblank ih =>
    rw [attributes, if_pos hblank]
    exact ih h
  | case3 count entries c rest hblank hclose =>
    rw [attributes, if_neg hblank, if_pos hclose]
    exact h
  | case4 count entries c rest hblank hclose hself =>
    rw [attributes, if_neg hblank, if_neg hclose, if_pos hself]
    exact h
  | case5 | case6 | case7 | case9 | case11 | case12 => cases h
  | case8 _ _ _ _ _ _ _ _ hlenient => exact absurd rfl hlenient
  | case10 _ _ _ _ _ _ _ _ _ hlenient => exact absurd rfl hlenient
  | case13 count entries c rest hblank hclose hself hspan n hname name v m hassigned hnew ih =>
    -- a name that is new to the strict reading is set by the lenient one without a question
    have hlenient := assigned_lenient hassigned
    rw [attributes, if_neg hblank, if_neg hclose, if_neg hself, if_neg hspan]
    simp only [name] at hlenient
    simp only [hname, hlenient, Bool.false_and, Bool.false_eq_true, if_false]
    exact ih h

/-- A reading only adds names of at least one character, and none a second time. -/
lemma keys_of_attributes {strict : Bool} {count : Nat} {entries : Table Text Text} {a : Attributes}
    (h : attributes d tag strict count entries text = .ok a) (hnodup : entries.keys.Nodup)
    (hnames : [] ∉ entries.keys) : a.entries.keys.Nodup ∧ [] ∉ a.entries.keys := by
  fun_induction attributes d tag strict count entries text with
  | case1 => cases h
  | case2 _ _ _ _ _ ih => exact ih h hnodup hnames
  | case3 | case4 =>
    cases h
    exact ⟨hnodup, hnames⟩
  | case5 | case6 | case7 | case9 | case11 | case12 => cases h
  | case8 _ _ _ _ _ _ _ _ _ _ _ ih => exact ih h hnodup hnames
  | case10 _ _ _ _ _ _ _ _ _ _ ih => exact ih h hnodup hnames
  | case13 count entries c rest hblank hclose hself hspan n hname name v m hassigned hnew ih =>
    refine ih h (Table.nodup_keys_set hnodup) fun hmem => ?_
    rcases Table.mem_keys_set.mp hmem with hmem | hnil
    · exact hnames hmem
    · exact List.cons_ne_nil _ _ hnil.symm

/-- The strict reading refines the lenient one.  Where the attributes of a tag can be read strictly from a
place on, they are read leniently with the same values in the same order and to the same end, and they have
names that are distinct and not empty. -/
theorem attributes_refine {place : Nat} {a : Attributes}
    (h : attributes d tag true place [] text = .ok a) :
    attributes d tag false place [] text = .ok a ∧ a.entries.keys.Nodup ∧ [] ∉ a.entries.keys :=
  ⟨attributes_lenient h, keys_of_attributes h List.nodup_nil List.not_mem_nil⟩

/-- Attributes of a tag whose values hold a quote and a closing delimiter in an expression, with what is
behind the tag. -/
def quotingTag : Text := " label=\"\x7b\x7b '\"\x7d\x7d' ~ x \x7d\x7d!\" open size = 'a>b'/> behind"

/-- The attributes as they are read from the sixth character of a template on. -/
def quotingAttributes : Attributes where
  entries := [("label", "\x7b\x7b '\"\x7d\x7d' ~ x \x7d\x7d!"), ("open", "true"), ("size", "a>b")]
  count := 50
  selfClosing := true

theorem attributes_refine_quoting :
    attributes .standard "Card" true 5 [] quotingTag = .ok quotingAttributes ∧
      attributes .standard "Card" false 5 [] quotingTag = .ok quotingAttributes ∧
      quotingAttributes.entries.keys.Nodup := by
  have hstrict : attributes .standard "Card" true 5 [] quotingTag = .ok quotingAttributes := by
    with_unfolding_all rfl
  obtain ⟨hlenient, hnodup, -⟩ := attributes_refine hstrict
  exact ⟨hstrict, hlenient, hnodup⟩

end Markup

end ComponentTags
