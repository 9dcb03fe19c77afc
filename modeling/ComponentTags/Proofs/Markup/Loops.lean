/-
# The loops that read a tag

The name of an attribute, its value and the list of all attributes are each read by a loop.  Their rounds are
written down here as they are, and a round goes on behind a span however many characters that has.  As long
as no delimiter is empty the rounds move on, so the loops end (`name_computes`, `unquoted_computes`,
`quoted_computes`, `attribute_computes`), and a reader that succeeds has passed at least one character.
-/
import ComponentTags.Proofs.Span.Cut
import ComponentTags.Proofs.Span.Loops

namespace ComponentTags

@[simp] lemma Fault.cause_shift (count : Nat) (f : Fault) : (f.shift count).cause = f.cause := rfl

namespace Markup

open Loop (Proceeds Computes later_of_pos)

variable {d : Delimiters} {tag name text : Text} {strict : Bool} {f : Fault}

/-! ### Names -/

/-- A round in the name of an attribute: it passes a character. -/
def nameRound (d : Delimiters) (x : Cursor Unit) : Cursor Unit ⊕ Nat :=
  match x.rest with
  | [] => .inr x.place
  | c :: rest => if endsName d c rest then .inr x.place else .inl ⟨x.place + 1, rest, ()⟩

lemma name_computes (d : Delimiters) :
    Computes Cursor.place Cursor.rest (nameRound d) fun x => nameLength d x.place x.rest := by
  have hproceeds : Proceeds Cursor.place Cursor.rest (nameRound d) fun _ => True := by
    rintro ⟨place, _ | ⟨c, rest⟩, _⟩
    · trivial
    · simp only [nameRound]
      split
      · trivial
      · exact later_of_pos (List.cons_ne_nil c rest) Nat.one_pos
  refine hproceeds.computes ?_
  rintro ⟨place, _ | ⟨c, rest⟩, _⟩
  · rfl
  · simp only [nameRound, nameLength]
    split <;> rfl

/-! ### Values -/

/-- A round in a value without quotes: it passes a span or a character. -/
def unquotedRound (d : Delimiters) (x : Cursor Unit) : Cursor Unit ⊕ Except Fault Nat :=
  match x.rest with
  | [] => .inr (.ok x.place)
  | c :: rest =>
    if Text.isBlank c || c == '>' then .inr (.ok x.place)
    else if (Span.kindAt? d (c :: rest)).isSome then
      match Span.length d false (c :: rest) with
      | .error f => .inr (.error (f.shift x.place))
      | .ok n => .inl ⟨x.place + n, (c :: rest).drop n, ()⟩
    else .inl ⟨x.place + 1, rest, ()⟩

lemma unquotedRound_proceeds (hd : d.NonEmpty) :
    Proceeds Cursor.place Cursor.rest (unquotedRound d) Unstuck := by
  rintro ⟨place, _ | ⟨c, rest⟩, _⟩
  · exact unstuck_ok _
  · simp only [unquotedRound]
    split
    · exact unstuck_ok _
    · split
      · obtain ⟨f, hlength, hcause⟩ | ⟨n, hlength⟩ := Span.length_cases hd false (c :: rest)
        · simp [hlength, hcause]
        · rw [hlength]
          exact later_of_pos (List.cons_ne_nil c rest) (Nat.succ_pos n)
      · exact later_of_pos (List.cons_ne_nil c rest) Nat.one_pos

lemma unquotedLength_eq_round (hd : d.NonEmpty) (x : Cursor Unit) :
    unquotedLength d x.place x.rest =
      (unquotedRound d x).elim (fun x => unquotedLength d x.place x.rest) id := by
  obtain ⟨place, _ | ⟨c, rest⟩, _⟩ := x
  · rw [unquotedLength.eq_def]
    rfl
  · rw [unquotedLength.eq_def]
    simp only [unquotedRound]
    split
    · rfl
    · split
      · obtain ⟨f, hlength, -⟩ | ⟨n, hlength⟩ := Span.length_cases hd false (c :: rest) <;>
          simp [hlength]
      · rfl

lemma unquoted_computes (hd : d.NonEmpty) :
    Computes Cursor.place Cursor.rest (unquotedRound d) fun x => unquotedLength d x.place x.rest :=
  (unquotedRound_proceeds hd).computes (unquotedLength_eq_round hd)

lemma unquotedLength_unstuck (hd : d.NonEmpty) (count : Nat) (text : Text) :
    Unstuck (unquotedLength d count text) :=
  (unquotedRound_proceeds hd).result (unquotedLength_eq_round hd) ⟨count, text, ()⟩

/-- A round in a quoted value: it passes a character, or a span if one may stand there. -/
def quotedRound (d : Delimiters) (tag name : Text) (strict : Bool) (quote : Char) (x : Cursor Unit) :
    Cursor Unit ⊕ Except Fault Nat :=
  match x.rest with
  | [] => .inr (.error ⟨0, .unterminatedValue name tag⟩)
  | c :: rest =>
    if c = quote then .inr (.ok x.place)
    else
      match Span.kindAt? d (c :: rest) with
      | none => .inl ⟨x.place + 1, rest, ()⟩
      | some kind =>
        if strict && decide (kind ≠ .expression) then .inr (.error ⟨x.place, .onlyExpressions name tag⟩)
        else
          match Span.length d strict (c :: rest) with
          | .error f => .inr (.error (f.shift x.place))
          | .ok n => .inl ⟨x.place + n, (c :: rest).drop n, ()⟩

lemma quotedRound_proceeds (hd : d.NonEmpty) (tag name : Text) (strict : Bool) (quote : Char) :
    Proceeds Cursor.place Cursor.rest (quotedRound d tag name strict quote) Unstuck := by
  rintro ⟨place, _ | ⟨c, rest⟩, _⟩
  · simp [quotedRound]
  · simp only [quotedRound]
    split
    · exact unstuck_ok _
    · split
      · exact later_of_pos (List.cons_ne_nil c rest) Nat.one_pos
      · split
        · simp
        · obtain ⟨f, hlength, hcause⟩ | ⟨n, hlength⟩ := Span.length_cases hd strict (c :: rest)
          · simp [hlength, hcause]
          · rw [hlength]
            exact later_of_pos (List.cons_ne_nil c rest) (Nat.succ_pos n)

lemma quotedLength_eq_round (hd : d.NonEmpty) (tag name : Text) (strict : Bool) (quote : Char)
    (x : Cursor Unit) :
    quotedLength d tag name strict quote x.place x.rest =
      (quotedRound d tag name strict quote x).elim
        (fun x => quotedLength d tag name strict quote x.place x.rest) id := by
  obtain ⟨place, _ | ⟨c, rest⟩, _⟩ := x
  · simp [quotedLength, quotedRound]
  · simp only [quotedRound]
    rw [quotedLength]
    split
    · rfl
    · cases Span.kindAt? d (c :: rest) with
      | none => rfl
      | some kind =>
        simp only
        split
        · rfl
        · obtain ⟨f, hlength, -⟩ | ⟨n, hlength⟩ := Span.length_cases hd strict (c :: rest) <;>
            simp [hlength]

lemma quoted_computes (hd : d.NonEmpty) (tag name : Text) (strict : Bool) (quote : Char) :
    Computes Cursor.place Cursor.rest (quotedRound d tag name strict quote)
      fun x => quotedLength d tag name strict quote x.place x.rest :=
  (quotedRound_proceeds hd tag name strict quote).computes
    (quotedLength_eq_round hd tag name strict quote)

lemma quotedLength_unstuck (hd : d.NonEmpty) (tag name : Text) (strict : Bool) (quote : Char)
    (count : Nat) (text : Text) : Unstuck (quotedLength d tag name strict quote count text) :=
  (quotedRound_proceeds hd tag name strict quote).result
    (quotedLength_eq_round hd tag name strict quote) ⟨count, text, ()⟩

lemma value_unstuck (hd : d.NonEmpty) (tag name : Text) (strict : Bool) (text : Text) :
    Unstuck (value d tag name strict text) := by
  have hbare : Unstuck (value.bare d tag name strict text) := by
    unfold value.bare
    split
    · simp
    · split
      · rename_i f hlength
        exact unstuck_error_iff.mpr (unquotedLength_unstuck hd 0 text f hlength)
      · exact unstuck_ok _
  unfold value
  split
  · rename_i c rest
    split
    · split
      · rename_i f hlength
        exact unstuck_error_iff.mpr (quotedLength_unstuck hd tag name strict c 1 rest f hlength)
      · exact unstuck_ok _
    · exact hbare
  · exact hbare

/-! ### Attributes -/

lemma assigned_unstuck (hd : d.NonEmpty) (tag name : Text) (strict : Bool) (text : Text) :
    Unstuck (assigned d tag name strict text) := by
  unfold assigned
  simp only
  split
  · split
    · rename_i f hvalue
      exact unstuck_error_iff.mpr (value_unstuck hd tag name strict _ f hvalue)
    · exact unstuck_ok _
  · exact unstuck_ok _

/-- A round in the attributes of a tag: it passes a blank, a span, a stray character or an attribute. -/
def attributeRound (d : Delimiters) (tag : Text) (strict : Bool) (x : Cursor (Table Text Text)) :
    Cursor (Table Text Text) ⊕ Except Fault Attributes :=
  match x.rest with
  | [] => .inr (.error ⟨x.place, .endInTag tag⟩)
  | c :: rest =>
    if Text.isBlank c then .inl ⟨x.place + 1, rest, x.found⟩
    else if c == '>' then .inr (.ok ⟨x.found, x.place + 1, false⟩)
    else if c == '/' && rest.head? == some '>' then .inr (.ok ⟨x.found, x.place + 2, true⟩)
    else if (Span.kindAt? d (c :: rest)).isSome then
      if strict then .inr (.error ⟨x.place, .spanBetweenAttributes tag⟩)
      else
        match Span.length d false (c :: rest) with
        | .error f => .inr (.error (f.shift x.place))
        | .ok n => .inl ⟨x.place + n, (c :: rest).drop n, x.found⟩
    else
      let n := nameLength d 0 (c :: rest)
      if n = 0 then
        if strict then .inr (.error ⟨x.place, .malformedAttribute tag⟩)
        else .inl ⟨x.place + 1, rest, x.found⟩
      else
        let name := (c :: rest).take n
        match assigned d tag name strict ((c :: rest).drop n) with
        | .error f => .inr (.error (f.shift (x.place + n)))
        | .ok (v, m) =>
          if strict && x.found.has name then .inr (.error ⟨x.place, .duplicateAttribute name tag⟩)
          else .inl ⟨x.place + (n + m), (c :: rest).drop (n + m), x.found.set name v⟩

lemma attributeRound_proceeds (hd : d.NonEmpty) (tag : Text) (strict : Bool) :
    Proceeds Cursor.place Cursor.rest (attributeRound d tag strict) Unstuck := by
  rintro ⟨place, _ | ⟨c, rest⟩, entries⟩
  · simp [attributeRound]
  · have hne : c :: rest ≠ [] := List.cons_ne_nil c rest
    simp only [attributeRound]
    split
    · exact later_of_pos hne Nat.one_pos
    · split
      · exact unstuck_ok _
      · split
        · exact unstuck_ok _
        · split
          · split
            · simp
            · obtain ⟨f, hlength, hcause⟩ | ⟨n, hlength⟩ := Span.length_cases hd false (c :: rest)
              · simp [hlength, hcause]
              · rw [hlength]
                exact later_of_pos hne (Nat.succ_pos n)
          · split
            · split
              · simp
              · exact later_of_pos hne Nat.one_pos
            · rename_i hname
              split
              · rename_i f hassigned
                exact unstuck_error_iff.mpr (assigned_unstuck hd tag _ strict _ f hassigned)
              · split
                · simp
                · exact later_of_pos hne (Nat.add_pos_left (Nat.pos_of_ne_zero hname) _)

lemma attributes_eq_round (hd : d.NonEmpty) (tag : Text) (strict : Bool) (x : Cursor (Table Text Text)) :
    attributes d tag strict x.place x.found x.rest =
      (attributeRound d tag strict x).elim
        (fun x => attributes d tag strict x.place x.found x.rest) id := by
  obtain ⟨place, _ | ⟨c, rest⟩, entries⟩ := x
  · simp [attributes, attributeRound]
  · simp only [attributeRound]
    rw [attributes]
    split
    · rfl
    · split
      · rfl
      · split
        · rfl
        · split
          · split
            · rfl
            · obtain ⟨f, hlength, -⟩ | ⟨n, hlength⟩ := Span.length_cases hd false (c :: rest) <;>
                simp [hlength]
          · cases nameLength d 0 (c :: rest) with
            | zero =>
              simp only [if_true]
              split <;> rfl
            | succ n =>
              simp only [Nat.succ_ne_zero, if_false, List.drop_succ_cons]
              cases assigned d tag ((c :: rest).take (n + 1)) strict (rest.drop n) with
              | error f => rfl
              | ok found =>
                obtain ⟨v, m⟩ := found
                simp only
                split
                · rfl
                · simp only [Sum.elim_inl, List.drop_drop, Nat.add_right_comm n 1 m, List.drop_succ_cons,
                    show place + (n + 1) + m = place + (n + m + 1) by omega]

lemma attribute_computes (hd : d.NonEmpty) (tag : Text) (strict : Bool) :
    Computes Cursor.place Cursor.rest (attributeRound d tag strict)
      fun x => attributes d tag strict x.place x.found x.rest :=
  (attributeRound_proceeds hd tag strict).computes (attributes_eq_round hd tag strict)

lemma attributes_unstuck (hd : d.NonEmpty) (tag : Text) (strict : Bool) (count : Nat)
    (entries : Table Text Text) (text : Text) : Unstuck (attributes d tag strict count entries text) :=
  (attributeRound_proceeds hd tag strict).result (attributes_eq_round hd tag strict)
    ⟨count, text, entries⟩

/-- The attributes of a tag end behind the place where they begin. -/
lemma lt_count_of_attributes {count : Nat} {entries : Table Text Text} {a : Attributes}
    (h : attributes d tag strict count entries text = .ok a) : count < a.count := by
  obtain ⟨n, hcount, -, hends⟩ := attributes_ends h
  have hpos : 0 < (text.take n).length :=
    Nat.lt_of_lt_of_le (by split <;> decide) hends.length_le
  rw [List.length_take] at hpos
  omega

variable {s : Setting} {levels place : Nat}

/-- The content of a component ends behind the place where it begins. -/
lemma lt_place_of_read {o : Opened} {p : Progress} {r : ContentReading}
    (h : p.read s levels (some o) = .ok r) : p.place < r.place := by
  obtain ⟨q, hsteps, hends⟩ := read_eq_ok_iff.mp h
  cases hends with
  | component hclose =>
    exact Nat.lt_of_le_of_lt hsteps.rest_eq.1 (Nat.lt_add_of_pos_right hclose.isClosingTag.2.1)

/-- A tag ends behind the place where it begins. -/
lemma lt_place_of_readTag {rest : Text} {t : TagReading} (h : readTag s levels place rest = .ok t) :
    place < t.place := by
  have hbehind : ∀ n, place < place + 1 + n := fun n => Nat.lt_add_right n (Nat.lt_succ_self place)
  rw [readTag] at h
  simp only at h
  split at h
  · cases h
  · split at h
    · cases h
    · rename_i a _
      split at h
      · cases h
        exact hbehind _
      · split at h
        · cases h
          exact hbehind _
        · split at h
          · cases h
            exact hbehind _
          · split at h
            · cases h
            · split at h
              · cases h
              · rename_i levels _ inner hinner
                cases h
                have hcontent := @lt_place_of_read s levels _ (.start _ _) inner hinner
                exact Nat.lt_trans (hbehind _) hcontent

end Markup

end ComponentTags
