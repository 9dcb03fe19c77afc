/-
# Where parsing fails

A reader that fails says where, counted from the front of the text that it was given, and no reader says
a place behind the end of that text.  Reading a template comes by places of the template only, or ends at
once where a place lies behind it, and so a template that cannot be parsed is named by the error, which
points into its text (`pointsInto_of_parseWithin`).
-/
import ComponentTags.Proofs.Markup.Crossing

namespace ComponentTags

open Delimiters (standard)

/-- An error names a template, if that has a name, and points into its text. -/
structure ParseError.PointsInto (e : ParseError) (text : Text) (template : Option Text) : Prop where
  template_eq : e.template = template
  source_eq : e.source = some text
  offset_nonneg : 0 ≤ e.offset
  offset_le : e.offset ≤ text.length

variable {text name : Text} {template : Option Text} {count n : Nat} {f : Fault}

@[simp] lemma Fault.offset_shift (count : Nat) (f : Fault) :
    (f.shift count).offset = count + f.offset := rfl

lemma pointsInto_ofFault (h : f.offset ≤ text.length) :
    (ParseError.ofFault text template f).PointsInto text template :=
  ⟨rfl, rfl, Int.natCast_nonneg _, Int.ofNat_le.mpr h⟩

/-- A place behind the first `n` characters, counted from the front. -/
lemma le_of_le_drop {offset : Nat} (hn : n ≤ text.length)
    (h : offset ≤ count + n + (text.drop n).length) : offset ≤ count + text.length := by
  rw [List.length_drop] at h
  omega

/-! ### Spans -/

namespace Span

lemma literalLength_le (quote : Char) (count : Nat) (text : Text) :
    literalLength quote count text ≤ count + text.length := by
  rcases literal_or_length_eq quote count text with ⟨front, behind, rfl, -, hlength⟩ | hlength
  · rw [hlength, List.length_append]
    omega
  · exact Nat.le_of_eq hlength

lemma offset_le_of_bodyLength {d : Delimiters} {kind : SpanKind} {rejectNested : Bool} {depth : Nat}
    (h : bodyLength d kind rejectNested depth count text = .error f) :
    f.offset ≤ count + text.length := by
  fun_induction bodyLength d kind rejectNested depth count text with
  | case1 =>
    cases h
    exact Nat.zero_le _
  | case2 depth count c rest hquote k ih =>
    have hk : k ≤ rest.length := by simpa using literalLength_le c 0 rest
    have hle := le_of_le_drop hk (ih h)
    rw [List.length_cons]
    omega
  | case3 => cases h
  | case4 =>
    cases h
    exact Nat.le_add_right _ _
  | case5 depth count c rest hquote hstop hnested ih =>
    have hle := ih h
    rw [List.length_cons]
    omega

lemma offset_le_of_rawBlockLength {d : Delimiters} (h : rawBlockLength d text = .error f) :
    f.offset ≤ text.length := by
  have hzero : f.offset = 0 := by
    unfold rawBlockLength at h
    split at h
    · cases h
      rfl
    · split at h
      · cases h
        rfl
      · cases h
  rw [hzero]
  exact Nat.zero_le _

lemma offset_le_of_length {rejectNested : Bool} (h : length standard rejectNested text = .error f) :
    f.offset ≤ text.length := by
  unfold length at h
  split at h
  · cases h
    exact Nat.zero_le _
  · split at h
    · cases h
      exact Nat.zero_le _
    · cases h
  · rename_i kind hkind
    split at h
    · exact offset_le_of_rawBlockLength h
    · have hstart := (kindAt?_eq_some_iff.mp hkind).length_le
      have hle := offset_le_of_bodyLength h
      rw [List.length_drop] at hle
      omega

end Span

namespace Markup

variable {strict : Bool} {tag v : Text}

/-! ### Attributes -/

lemma offset_le_of_unquotedLength (h : unquotedLength standard count text = .error f) :
    f.offset ≤ count + text.length := by
  fun_induction unquotedLength standard count text with
  | case1 | case2 => cases h
  | case3 count c rest hends hspan f' hlength =>
    cases h
    exact Nat.add_le_add_left (Span.offset_le_of_length hlength) count
  | case4 =>
    cases h
    exact Nat.le_add_right _ _
  | case5 count c rest hends hspan k hlength ih =>
    obtain ⟨kind, hkind⟩ := Option.isSome_iff_exists.mp hspan
    exact le_of_le_drop (length_pos_of_kindAt? hkind hlength).2 (ih h)
  | case6 count c rest hends hspan ih => exact le_of_le_drop (Nat.succ_pos _) (ih h)

lemma offset_le_of_quotedLength {quote : Char}
    (h : quotedLength standard tag name strict quote count text = .error f) :
    f.offset ≤ count + text.length := by
  fun_induction quotedLength standard tag name strict quote count text with
  | case1 =>
    cases h
    exact Nat.zero_le _
  | case2 => cases h
  | case3 count c rest hc hkind ih => exact le_of_le_drop (Nat.succ_pos _) (ih h)
  | case4 | case6 =>
    cases h
    exact Nat.le_add_right _ _
  | case5 count c rest hc kind hkind hexpression f' hlength =>
    cases h
    exact Nat.add_le_add_left (Span.offset_le_of_length hlength) count
  | case7 count c rest hc kind hkind hexpression k hlength ih =>
    exact le_of_le_drop (length_pos_of_kindAt? hkind (Span.length_lenient hlength)).2 (ih h)

lemma offset_le_of_value (h : value standard tag name strict text = .error f) :
    f.offset ≤ text.length := by
  have hbare : ∀ text : Text, value.bare standard tag name strict text = .error f →
      f.offset ≤ text.length := by
    intro text h
    unfold value.bare at h
    split at h
    · cases h
      exact Nat.zero_le _
    · split at h
      · rename_i f' hlength
        cases h
        simpa using offset_le_of_unquotedLength hlength
      · cases h
  cases text with
  | nil => exact hbare [] h
  | cons c rest =>
    simp only [value] at h
    split at h
    · split at h
      · rename_i f' hlength
        cases h
        rw [List.length_cons, Nat.add_comm]
        exact offset_le_of_quotedLength hlength
      · cases h
    · exact hbare (c :: rest) h

lemma offset_le_of_assigned (h : assigned standard tag name strict text = .error f) :
    f.offset ≤ text.length := by
  unfold assigned at h
  simp only at h
  split at h
  · rename_i rest hrest
    split at h
    · rename_i f' hvalue
      cases h
      -- the value lies behind the blanks, the equals sign and more blanks
      have hlength := congrArg List.length hrest
      rw [List.length_drop, List.length_cons] at hlength
      have hmore := (List.takeWhile_prefix (l := rest) Text.isBlank).length_le
      have hle := offset_le_of_value hvalue
      rw [List.length_drop] at hle
      rw [Fault.offset_shift]
      omega
    · cases h
  · cases h

lemma offset_le_of_attributes {entries : Table Text Text}
    (h : attributes standard tag strict count entries text = .error f) :
    f.offset ≤ count + text.length := by
  have hbehind : ∀ {text : Text} {k : Nat}, nameLength standard 0 text = k → k ≤ text.length := by
    rintro text _ rfl
    obtain ⟨m, hm, hcrosses⟩ := nameLength_crosses false 0 text
    rw [hm, Nat.zero_add]
    exact hcrosses.length_le
  fun_induction attributes standard tag strict count entries text with
  | case1 | case5 | case7 | case9 | case12 =>
    cases h
    exact Nat.le_add_right _ _
  | case3 | case4 => cases h
  | case2 count entries c rest hblank ih => exact le_of_le_drop (Nat.succ_pos _) (ih h)
  | case6 count entries c rest hblank hclose hself hspan hstrict f' hlength =>
    cases h
    exact Nat.add_le_add_left (Span.offset_le_of_length hlength) count
  | case8 count entries c rest hblank hclose hself hspan hstrict k hlength ih =>
    obtain ⟨kind, hkind⟩ := Option.isSome_iff_exists.mp hspan
    exact le_of_le_drop (length_pos_of_kindAt? hkind hlength).2 (ih h)
  | case10 count entries c rest hblank hclose hself hspan hname hstrict ih =>
    exact le_of_le_drop (Nat.succ_pos _) (ih h)
  | case11 count entries c rest hblank hclose hself hspan k hname name f' hassigned =>
    cases h
    have hle := offset_le_of_assigned hassigned
    exact le_of_le_drop (hbehind hname) (Nat.add_le_add_left hle _)
  | case13 count entries c rest hblank hclose hself hspan k hname name v m hassigned hnew ih =>
    have hm := (assigned_crosses hassigned).1.length_le
    exact le_of_le_drop (hbehind hname) (le_of_le_drop hm (ih h))

/-! ### Content -/

lemma offset_of_closingTag (h : closingTag text = .error f) : f.offset = 0 := by
  unfold closingTag at h
  split at h
  · cases h
    rfl
  · cases h

lemma offset_of_declarationLength (h : declarationLength text = .error f) : f.offset = 0 := by
  unfold declarationLength at h
  split at h
  · split at h
    · cases h
      rfl
    · cases h
  · split at h
    · split at h
      · cases h
        rfl
      · cases h
    · cases h

variable {s : Setting} {levels place : Nat} {opened : Option Opened} {p : Progress}

/-- A fault is found in what is still to be read, or it is that of a component which is never closed. -/
lemma Fails.offset_le (hs : s.delimiters = standard) (h : Fails s opened place text f) :
    (text ≠ [] ∧ f.offset ≤ place + text.length) ∨ ∃ o ∈ opened, f.offset = o.place := by
  -- a reader counts from the place
  have hshift : ∀ {f : Fault}, text ≠ [] → f.offset ≤ text.length →
      text ≠ [] ∧ (f.shift place).offset ≤ place + text.length := by
    intro f hne hle
    exact ⟨hne, Nat.add_le_add_left hle place⟩
  cases h with
  | unclosed hopened => exact .inr ⟨_, hopened, rfl⟩
  | span hkind hlength =>
    rw [hs] at hlength
    exact .inl (hshift (List.cons_ne_nil _ _) (Span.offset_le_of_length hlength))
  | closing hspan hclosing =>
    have hzero := offset_of_closingTag hclosing
    exact .inl (hshift (List.cons_ne_nil _ _) (by omega))
  | declaration hspan hslash hletter hlength =>
    have hzero := offset_of_declarationLength hlength
    exact .inl (hshift (List.cons_ne_nil _ _) (by omega))
  | emptySpan | stray | tagName => exact .inl ⟨List.cons_ne_nil _ _, Nat.le_add_right _ _⟩
  | @attributes rest name f hspan hletter hname hbehind hattributes =>
    rw [hs] at hattributes
    have hle := offset_le_of_attributes hattributes
    have hlength : name.length ≤ rest.length := hname ▸ (List.takeWhile_prefix _).length_le
    rw [List.length_drop] at hle
    refine .inl ⟨List.cons_ne_nil _ _, ?_⟩
    rw [Fault.offset_shift, List.length_cons]
    omega

/-- Reading the rest of a template fails in the template. -/
lemma Breaks.offset_le (hs : s.delimiters = standard) (h : Breaks s levels opened p f)
    (hrest : p.rest = text.drop p.place) (hopened : ∀ o ∈ opened, o.place ≤ text.length) :
    f.offset ≤ text.length := by
  -- what is still to be read behind some steps, and where it is if there is anything left
  have behind : ∀ {levels : Nat} {opened : Option Text} {p q : Progress}, p.rest = text.drop p.place →
      Steps s levels opened p q →
      q.rest = text.drop q.place ∧ (q.rest ≠ [] → q.place + q.rest.length = text.length) := by
    intro levels opened p q hrest hsteps
    obtain ⟨hle, hq⟩ := hsteps.rest_eq
    have hdrop : q.rest = text.drop q.place := by
      rw [hq, hrest, List.drop_drop, Nat.add_sub_cancel' hle]
    refine ⟨hdrop, fun hne => ?_⟩
    rw [hdrop, ne_eq, List.drop_eq_nil_iff] at hne
    rw [hdrop, List.length_drop]
    omega
  induction h with
  | here hsteps h =>
    obtain ⟨-, hlength⟩ := behind hrest hsteps
    rcases h.offset_le hs with ⟨hne, hle⟩ | ⟨o, ho, hplace⟩
    · exact hlength hne ▸ hle
    · exact hplace ▸ hopened o ho
  | tooDeep hsteps hq h hself =>
    obtain ⟨-, hlength⟩ := behind hrest hsteps
    exact hlength (by simp [hq]) ▸ Nat.le_add_right _ _
  | @inside levels opened p q f rest name a hsteps hq h hself _ ih =>
    obtain ⟨hdrop, hlength⟩ := behind hrest hsteps
    refine ih ?_ fun o ho => ?_
    · simp only [Progress.start]
      rw [hdrop, List.drop_drop]
    · obtain rfl : ⟨name, q.place⟩ = o := Option.some.inj ho
      exact hlength (by simp [hq]) ▸ Nat.le_add_right _ _

/-- A template that cannot be parsed is named by the error, which points into its text. -/
theorem pointsInto_of_parseWithin {components : List Text} {e : ParseError}
    (h : parseWithin levels text components standard template = .error e) :
    e.PointsInto text template := by
  obtain ⟨f, hbreaks, rfl⟩ := parseWithin_eq_error_iff.mp h
  exact pointsInto_ofFault (hbreaks.offset_le rfl rfl (by simp))

end Markup

end ComponentTags
