/-
# Elements with raw text

The content of a `script` or a `style` is text up to the first closing tag with the name of the element,
in whatever case its letters are written (`readTag_rawText`).  The closing tag is looked up in the
lower-case form of the whole template, in which every character has its place as long as none of those in
front of it has a longer lower-case form.  The capital letter I with a dot above is the only character
that has one (`Text.lowerChar_cases`).
-/
import ComponentTags.Proofs.Markup.Tiling

namespace ComponentTags

namespace Text

/-! ### Lower-case forms -/

variable {c x : Char} {name text needle : Text} {skipped n : Nat}

/-- The capital letter I with a dot above has two characters in lower case, and every other character has
one. -/
lemma lowerChar_cases (c : Char) :
    c = 'İ' ∧ lowerChar c = ['i', Char.ofNat 0x307] ∨ c ≠ 'İ' ∧ ∃ x, lowerChar c = [x] := by
  by_cases hdotted : c = 'İ'
  · subst hdotted
    exact .inl ⟨rfl, by decide⟩
  · refine .inr ⟨hdotted, ?_⟩
    unfold lowerChar
    split
    · exact ⟨_, rfl⟩
    · -- no other character has its code
      have hcode : (c.toNat == 0x130) = false := by
        refine beq_eq_false_iff_ne.mpr fun hcode => hdotted ?_
        rw [← Char.ofNat_toNat c, hcode]
      rw [hcode]
      exact ⟨_, rfl⟩

/-- A code that no character has stands for the character zero. -/
lemma toNat_ofNat_or (n : Nat) : (Char.ofNat n).toNat = n ∨ Char.ofNat n = Char.ofNat 0 := by
  by_cases hvalid : n.isValidChar
  · rw [Char.ofNat, dif_pos hvalid]
    exact .inl rfl
  · rw [Char.ofNat, dif_neg hvalid]
    exact .inr rfl

/-- Only letters become letters in lower case: an ASCII character in front of the letters is its own
lower-case form and no other character's. -/
lemma eq_of_lowerChar (h : lowerChar c = [x]) (hlow : x.toNat < 0x41) (hnul : x ≠ Char.ofNat 0) :
    c = x := by
  unfold lowerChar at h
  split at h
  · rename_i hascii
    have hall : ∀ n < 0x80, (Char.ofNat n).toLower.toNat < 0x41 →
        (Char.ofNat n).toLower = Char.ofNat n := by
      decide +kernel
    obtain rfl := List.singleton_inj.mp h
    have hsame := hall c.toNat hascii
    rw [Char.ofNat_toNat] at hsame
    exact (hsame hlow).symm
  rename_i hascii
  split at h
  · cases h
  obtain rfl := List.singleton_inj.mp h
  unfold shiftBy at hlow hnul ⊢
  cases hfind : lowerRuns.find? (·.contains c.toNat) with
  | none => rfl
  | some r =>
    -- every run is moved to letters
    have hruns : ∀ r ∈ lowerRuns, r.down + 0x41 ≤ r.first + r.up := by decide +kernel
    have hrun := hruns r (List.mem_of_find?_eq_some hfind)
    have hmem := List.find?_some hfind
    simp only [CaseRun.contains, Bool.and_eq_true, decide_eq_true_eq] at hmem
    simp only [hfind] at hlow hnul
    rcases toNat_ofNat_or (c.toNat + r.up - r.down) with hcode | hzero
    · omega
    · exact absurd hzero hnul

/-- Such a character begins a text if it begins its lower-case form. -/
lemma exists_of_prefix_lower (hlow : x.toNat < 0x41) (hnul : x ≠ Char.ofNat 0)
    (h : x :: needle <+: lower text) : ∃ rest, text = x :: rest ∧ needle <+: lower rest := by
  cases text with
  | nil => simp [lower] at h
  | cons c rest =>
    have hcons : lower (c :: rest) = lowerChar c ++ lower rest := rfl
    obtain ⟨-, hc⟩ | ⟨-, y, hc⟩ := lowerChar_cases c
    · rw [hcons, hc, List.cons_append, List.cons_prefix_cons] at h
      rw [h.1] at hlow
      exact absurd hlow (by decide)
    · rw [hcons, hc, List.singleton_append, List.cons_prefix_cons] at h
      obtain ⟨rfl, h⟩ := h
      exact ⟨rest, by rw [eq_of_lowerChar hc hlow hnul], h⟩

/-- A text has as many characters as its lower-case form if none has a longer form. -/
lemma length_lower (h : 'İ' ∉ text) : (lower text).length = text.length := by
  induction text with
  | nil => rfl
  | cons c text ih =>
    simp only [List.mem_cons, not_or] at h
    obtain ⟨rfl, -⟩ | ⟨-, x, hx⟩ := lowerChar_cases c
    · exact absurd rfl h.1
    · have hcons : lower (c :: text) = [x] ++ lower text := by rw [← hx]; rfl
      rw [hcons, List.length_append, ih h.2, List.length_singleton, List.length_cons, Nat.add_comm]

/-- A place of a text is the same place of its lower-case form if no character in front of it has a longer
form. -/
lemma drop_lower (h : 'İ' ∉ text.take n) (hn : n ≤ text.length) :
    (lower text).drop n = lower (text.drop n) := by
  have hlength : (lower (text.take n)).length = n := by
    rw [length_lower h, List.length_take, Nat.min_eq_left hn]
  conv_lhs => rw [← List.take_append_drop n text, lower_append]
  rw [List.drop_left' hlength]

/-- Two characters are the same letter in whatever case. -/
def SameLetter (a b : Char) : Prop := lowerChar a = lowerChar b

lemma lower_eq_of_sameLetters {a b : Text} (h : List.Forall₂ SameLetter a b) : lower a = lower b := by
  induction h with
  | nil => rfl
  | cons hletter _ ih => exact congrArg₂ (· ++ ·) hletter ih

/-- Where the lower-case form of a name begins the lower-case form of a text, the name begins the text letter
by letter, unless a letter of the text stands for two. -/
lemma exists_written (hmark : Char.ofNat 0x307 ∉ lower name) (hlast : (lower name).getLast? ≠ some 'i')
    (h : lower name <+: lower text) :
    ∃ written behind, text = written ++ behind ∧ List.Forall₂ SameLetter written name := by
  induction name generalizing text with
  | nil => exact ⟨[], text, rfl, .nil⟩
  | cons b name ih =>
    have hcons : ∀ (a : Char) (rest : Text), lower (a :: rest) = lowerChar a ++ lower rest :=
      fun _ _ => rfl
    rw [hcons] at hmark hlast h
    obtain ⟨-, hb⟩ | ⟨-, x, hb⟩ := lowerChar_cases b
    · simp [hb] at hmark
    simp only [hb, List.singleton_append, List.mem_cons, not_or] at hmark hlast h
    cases text with
    | nil => simp [lower] at h
    | cons a rest =>
      rw [hcons] at h
      obtain ⟨-, ha⟩ | ⟨-, y, ha⟩ := lowerChar_cases a
      · -- the second character of the long form is in no name
        simp only [ha, List.cons_append, List.nil_append, List.cons_prefix_cons] at h
        obtain ⟨rfl, h⟩ := h
        cases hname : lower name with
        | nil => simp [hname] at hlast
        | cons z more =>
          rw [hname, List.cons_prefix_cons] at h
          exact absurd h.1.symm (by simp [hname] at hmark; exact hmark.1)
      · simp only [ha, List.cons_append, List.nil_append, List.cons_prefix_cons] at h
        obtain ⟨rfl, h⟩ := h
        have hlast' : (lower name).getLast? ≠ some 'i' := by
          intro hi
          rw [List.getLast?_cons, hi] at hlast
          exact hlast rfl
        obtain ⟨written, behind, rfl, hwritten⟩ := ih hmark.2 hlast' h
        exact ⟨a :: written, behind, rfl, .cons (ha.trans hb.symm) hwritten⟩

/-! ### Searching -/

/-- A search goes on behind characters where nothing is found. -/
lemma indexFrom_skip (hno : ∀ m < n, ¬needle <+: text.drop m) (hn : n ≤ text.length) :
    indexFrom needle skipped text = indexFrom needle (skipped + n) (text.drop n) := by
  induction n generalizing skipped text with
  | zero => rfl
  | succ n ih =>
    cases text with
    | nil => cases hn
    | cons c text =>
      have hfirst : ¬needle.isPrefixOf (c :: text) = true := by
        rw [List.isPrefixOf_iff_prefix]
        exact hno 0 (Nat.succ_pos n)
      rw [indexFrom, if_neg hfirst, ih (fun m hm => hno (m + 1) (Nat.succ_lt_succ hm))
        (Nat.le_of_succ_le_succ hn), List.drop_succ_cons]
      congr 1
      omega

lemma indexFrom_of_prefix (hneedle : needle ≠ []) (h : needle <+: text) :
    indexFrom needle skipped text = some skipped := by
  cases text with
  | nil => exact absurd (List.prefix_nil.mp h) hneedle
  | cons c text => rw [indexFrom, if_pos (List.isPrefixOf_iff_prefix.mpr h)]

end Text

namespace Markup

open Text (SameLetter between lower)

variable {d : Delimiters} {text name rest : Text} {components : List Text} {levels place first last : Nat}
  {a : Attributes}

/-! ### The end of raw text -/

/-- A text begins with `</` and a name, in whatever case its letters are written. -/
def ClosesAt (name text : Text) : Prop :=
  ∃ written behind, text = '<' :: '/' :: (written ++ behind) ∧ List.Forall₂ SameLetter written name

/-- The raw text that begins at the place `first` ends at the first closing tag with the name, or at the end
of the template. -/
structure EndsRawText (name text : Text) (first last : Nat) : Prop where
  first_le : first ≤ last
  ends : ClosesAt name (text.drop last) ∨ last = text.length
  no_earlier : ∀ place, first ≤ place → place < last → ¬ClosesAt name (text.drop place)

/-- A closing tag of a name is found in the lower-case form where the template has it. -/
lemma closesAt_iff (hraw : isRawTextName name = true) :
    ("</" : Text) ++ lower name <+: lower text ↔ ClosesAt name text := by
  have hname : Char.ofNat 0x307 ∉ lower name ∧ (lower name).getLast? ≠ some 'i' := by
    simp only [isRawTextName, Bool.or_eq_true, decide_eq_true_eq] at hraw
    rcases hraw with hname | hname
    · rw [hname]
      decide
    · rw [hname]
      decide
  have hneedle : ("</" : Text) ++ lower name = '<' :: '/' :: lower name := rfl
  rw [hneedle]
  constructor
  · intro h
    obtain ⟨_, rfl, hslash⟩ := Text.exists_of_prefix_lower (by decide) (by decide) h
    obtain ⟨_, rfl, hletters⟩ := Text.exists_of_prefix_lower (by decide) (by decide) hslash
    obtain ⟨written, behind, rfl, hwritten⟩ := Text.exists_written hname.1 hname.2 hletters
    exact ⟨written, behind, rfl, hwritten⟩
  · rintro ⟨written, behind, rfl, hwritten⟩
    rw [← Text.lower_eq_of_sameLetters hwritten]
    have hlower : lower ('<' :: '/' :: (written ++ behind)) =
        '<' :: '/' :: lower written ++ lower behind := by
      rw [List.cons_append, List.cons_append, ← Text.lower_append]
      rfl
    rw [hlower]
    exact List.prefix_append _ _

/-- The raw text of an element is as long as the template says. -/
lemma rawTextLength_eq (hraw : isRawTextName name = true) (hfirst : first ≤ text.length)
    (hlast : EndsRawText name text first last) (hdotted : 'İ' ∉ text.take last) :
    rawTextLength (settingFor text components d) name first (text.drop first) = last - first := by
  obtain ⟨n, rfl⟩ := Nat.exists_eq_add_of_le hlast.first_le
  have hle : first + n ≤ text.length := by
    rcases hlast.ends with ⟨written, behind, hclosing, -⟩ | hend
    · have hlength := congrArg List.length hclosing
      simp only [List.length_drop, List.length_cons] at hlength
      omega
    · omega
  -- up to the end every place of the template is a place of its lower-case form
  have hdrop : ∀ m ≤ n, (lower text).drop (first + m) = lower (text.drop (first + m)) := by
    intro m hm
    refine Text.drop_lower (fun hmem => hdotted ?_) (by omega)
    exact List.take_subset_take_left _ (by omega) hmem
  have hno : ∀ m < n, ¬("</" : Text) ++ lower name <+: ((lower text).drop first).drop m := by
    intro m hm
    rw [List.drop_drop, hdrop m (by omega), closesAt_iff hraw]
    exact hlast.no_earlier (first + m) (by omega) (by omega)
  have hlength : n ≤ ((lower text).drop first).length := by
    have htake := congrArg List.length (Text.lower_append (text.take (first + n)) (text.drop (first + n)))
    rw [List.take_append_drop, List.length_append, Text.length_lower hdotted, List.length_take] at htake
    rw [List.length_drop]
    omega
  rw [rawTextLength, settingFor, Text.index?, Text.indexFrom_skip hno hlength, List.drop_drop,
    hdrop n (Nat.le_refl n), Nat.zero_add, Nat.add_sub_cancel_left]
  by_cases hcloses : ClosesAt name (text.drop (first + n))
  · rw [Text.indexFrom_of_prefix (by simp) ((closesAt_iff hraw).mpr hcloses), Option.getD_some]
  · have hend := hlast.ends.resolve_left hcloses
    rw [hend, List.drop_length, List.length_drop]
    simp [lower, Text.indexFrom]
    omega

/-- The tag of an element with raw text becomes a raw node up to the first closing tag with its name, or to
the end of the template if there is none, provided that no character in front of the end has a lower-case
form of two characters. -/
theorem readTag_rawText (hrest : text.drop place = '<' :: rest) (htag : OpensTag d false rest name a)
    (hname : isComponentName name = false) (hraw : isRawTextName name = true)
    (hself : a.selfClosing = false) (hlast : EndsRawText name text (place + tagLength name a) last)
    (hdotted : 'İ' ∉ text.take last) :
    readTag (settingFor text components d) levels place rest =
      .ok ⟨.raw (between text place last), last, []⟩ := by
  have hbehind : text.drop (place + tagLength name a) = rest.drop (name.length + a.count) := by
    rw [← List.drop_drop, hrest, tagLength, List.drop_succ_cons]
  have hfirst : place + tagLength name a ≤ text.length := by
    have hlength := congrArg List.length hrest
    have htake := htag.take_eq.1
    simp only [List.length_drop, List.length_cons] at hlength
    omega
  have hlength : rawTextLength (settingFor text components d) name (place + tagLength name a)
      (text.drop (place + tagLength name a)) = last - (place + tagLength name a) :=
    rawTextLength_eq hraw hfirst hlast hdotted
  have hsum : place + (tagLength name a + (last - (place + tagLength name a))) = last := by
    have hle := hlast.first_le
    omega
  rw [readTag_literal (.element htag hname), hraw, hself]
  simp only [Bool.not_false, Bool.and_self, if_true]
  rw [← hbehind, hlength, ← hrest, ← Text.between_eq, hsum]

/-- Behind a letter with a longer lower-case form the end is found one character too late. -/
example : (parseWithin 1 "İ<script>a</script>" []).map Parsed.nodes =
    .ok [.raw "İ", .raw "<script>a<", .raw "/script>"] := by
  with_unfolding_all rfl

end Markup

end ComponentTags
