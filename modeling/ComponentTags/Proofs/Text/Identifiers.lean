/-
# Characters of identifiers

A table of ranges in increasing order is searched once for a whole interval of code points: the interval lies
within a range (`within`), or no range meets it (`misses`).  So inclusions between classes of characters are
checked table by table: what an identifier begins with may occur further on in it
(`isIdentifierChar_of_isIdentifierStart`).
-/
import ComponentTags.Proofs.Scope.Lexed

namespace ComponentTags.Text

variable {n m k : Nat} {ranges : List CodeRange} {c : Char}

/-- Whether an interval of code points lies within the first range that does not end in front of it. -/
def within (n m : Nat) : List CodeRange → Bool
  | [] => false
  | (first, last) :: rest => if n ≤ last then first ≤ n && m ≤ last else within n m rest

/-- Whether an interval of code points lies in front of the first range that does not end in front of it. -/
def misses (n m : Nat) : List CodeRange → Bool
  | [] => true
  | (first, last) :: rest => if n ≤ last then m < first && m ≤ last else misses n m rest

lemma inRanges_of_within (h : within n m ranges = true) (hn : n ≤ k) (hm : k ≤ m) : inRanges k ranges = true := by
  induction ranges with
  | nil => cases h
  | cons r ranges ih =>
    rw [within] at h
    rw [inRanges]
    split_ifs at h with hlast
    · simp only [Bool.and_eq_true, decide_eq_true_eq] at h
      rw [if_pos (by omega), decide_eq_true_eq]
      omega
    · rw [if_neg (by omega)]
      exact ih h

lemma inRanges_of_misses (h : misses n m ranges = true) (hn : n ≤ k) (hm : k ≤ m) : inRanges k ranges = false := by
  induction ranges with
  | nil => rfl
  | cons r ranges ih =>
    rw [misses] at h
    rw [inRanges]
    split_ifs at h with hlast
    · simp only [Bool.and_eq_true, decide_eq_true_eq] at h
      rw [if_pos (by omega), decide_eq_false_iff_not]
      omega
    · rw [if_neg (by omega)]
      exact ih h

lemma exists_range_of_inRanges (h : inRanges n ranges = true) : ∃ r ∈ ranges, r.1 ≤ n ∧ n ≤ r.2 := by
  induction ranges with
  | nil => cases h
  | cons r ranges ih =>
    obtain ⟨first, last⟩ := r
    rw [inRanges] at h
    split at h
    · next hlast => exact ⟨_, .head _, of_decide_eq_true h, hlast⟩
    · obtain ⟨r, hmem, hr⟩ := ih h
      exact ⟨r, .tail _ hmem, hr⟩

/-- A letter that occurs in no identifier begins none either. -/
lemma inRanges_notFirstRanges (hletter : inRanges n letterRanges = true) (hstray : inRanges n strayRanges = true) :
    inRanges n notFirstRanges = true := by
  have htables : strayRanges.all (fun r => misses r.1 r.2 letterRanges || within r.1 r.2 notFirstRanges) = true := by
    decide +kernel
  obtain ⟨r, hmem, hleft, hright⟩ := exists_range_of_inRanges hstray
  rcases Bool.or_eq_true_iff.mp (List.all_eq_true.mp htables r hmem) with hmisses | hwithin
  · rw [inRanges_of_misses hmisses hleft hright] at hletter
    cases hletter
  · exact inRanges_of_within hwithin hleft hright

/-- What an identifier begins with may occur further on in it. -/
theorem isIdentifierChar_of_isIdentifierStart (h : isIdentifierStart c = true) : isIdentifierChar c = true := by
  have htables : firstRanges.all (fun r => within r.1 r.2 markRanges ||
      (within r.1 r.2 letterRanges || within r.1 r.2 numeralRanges) && misses r.1 r.2 strayRanges) = true := by
    decide +kernel
  unfold isIdentifierStart isLetter at h
  unfold isIdentifierChar isAlphanumeric
  split_ifs at h ⊢ with hascii
  · rw [Bool.or_eq_true] at h ⊢
    exact h.imp (fun halpha => by rw [Char.isAlphanum, halpha, Bool.true_or]) id
  · simp only [Bool.or_eq_true, Bool.and_eq_true, Bool.not_eq_true'] at h ⊢
    rcases h with ⟨hletter, hfirst⟩ | hfirst
    · refine .inl ⟨.inl hletter, ?_⟩
      rw [Bool.eq_false_iff]
      intro hstray
      rw [inRanges_notFirstRanges hletter hstray] at hfirst
      cases hfirst
    · obtain ⟨r, hmem, hleft, hright⟩ := exists_range_of_inRanges hfirst
      have hrange := List.all_eq_true.mp htables r hmem
      simp only [Bool.or_eq_true, Bool.and_eq_true] at hrange
      rcases hrange with hmark | ⟨hwithin, hmisses⟩
      · exact .inr (inRanges_of_within hmark hleft hright)
      · exact .inl ⟨hwithin.imp (inRanges_of_within · hleft hright) (inRanges_of_within · hleft hright),
          inRanges_of_misses hmisses hleft hright⟩

/-- All characters of an identifier may occur in one. -/
lemma isIdentifierChar_of_isIdentifier {word : Text} (h : isIdentifier word = true) :
    ∀ c ∈ word, isIdentifierChar c = true := by
  cases word with
  | nil => cases h
  | cons c rest =>
    rw [isIdentifier, Bool.and_eq_true, List.all_eq_true] at h
    rintro x (_ | ⟨_, hx⟩)
    · exact isIdentifierChar_of_isIdentifierStart h.1
    · exact h.2 x hx

end ComponentTags.Text
