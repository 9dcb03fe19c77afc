/-
# How the attributes of a component are read

The reading of a component's tag as a grammar: which characters are the value of an attribute, and which
spans are skipped to find its end (`Quoted`), what follows a name (`Assigned`), and the attributes of a
tag in their order (`Listed`).  Text has one reading only.  Every component of a parsed template lists the
attributes that its tag is read as (`listed_of_parseWithin`).
-/
import ComponentTags.Proofs.Lowered.Steps
import ComponentTags.Proofs.Markup.Crossing
import ComponentTags.Proofs.Table

namespace ComponentTags.Markup

open Delimiters (standard)
open Node (Everywhere)

/-- An attribute of a component as it was read. -/
structure Reading where
  /-- The name of the attribute. -/
  name : Text
  /-- The value of the attribute. -/
  value : Text
  /-- The spans that were skipped to find the end of the value. -/
  spans : List Text

/-! ### The grammar -/

/-- What follows an opening quote is a value with some spans, the closing quote and the text behind it. -/
inductive Quoted (quote : Char) : Text → Text → List Text → Text → Prop
  | close {behind : Text} : Quoted quote (quote :: behind) [] [] behind
  | character {c : Char} {rest value behind : Text} {spans : List Text} (hquote : c ≠ quote)
      (hkind : Span.kindAt? standard (c :: rest) = none)
      (next : Quoted quote rest value spans behind) :
      Quoted quote (c :: rest) (c :: value) spans behind
  /-- An expression is skipped as a whole, whatever quotes are in it. -/
  | span {c : Char} {n : Nat} {rest value behind : Text} {spans : List Text} (hquote : c ≠ quote)
      (hkind : Span.kindAt? standard (c :: rest) = some .expression)
      (hlength : Span.length standard true (c :: rest) = .ok (n + 1))
      (next : Quoted quote (rest.drop n) value spans behind) :
      Quoted quote (c :: rest) (c :: rest.take n ++ value) ((c :: rest.take n) :: spans) behind

/-- What follows the name of an attribute gives its value, and some text is behind it. -/
inductive Assigned : Text → Text → List Text → Text → Prop
  | bare {text : Text} (hno : ∀ rest, text.dropWhile Text.isBlank ≠ '=' :: rest) :
      Assigned text bareValue [] (text.dropWhile Text.isBlank)
  | quoted {text rest inner value behind : Text} {quote : Char} {spans : List Text}
      (hequals : text.dropWhile Text.isBlank = '=' :: rest)
      (hopen : rest.dropWhile Text.isBlank = quote :: inner) (hquote : Span.isQuote quote = true)
      (hvalue : Quoted quote inner value spans behind) : Assigned text value spans behind

/-- What follows the name of a tag is a list of attributes and the end of the tag. -/
inductive Listed : Text → List Reading → Prop
  | close {rest : Text} : Listed ('>' :: rest) []
  | selfClose {rest : Text} : Listed ('/' :: '>' :: rest) []
  | blank {c : Char} {rest : Text} {readings : List Reading} (hblank : Text.isBlank c = true)
      (next : Listed rest readings) : Listed (c :: rest) readings
  | assign {text value behind : Text} {n : Nat} {spans : List Text} {readings : List Reading}
      (hname : nameLength standard 0 text = n + 1)
      (hvalue : Assigned (text.drop (n + 1)) value spans behind) (next : Listed behind readings) :
      Listed text (⟨text.take (n + 1), value, spans⟩ :: readings)

variable {quote : Char} {tag name text v v' behind behind' : Text} {spans spans' : List Text} {count n : Nat}

/-! ### There is one reading only -/

lemma Quoted.unique (h : Quoted quote text v spans behind)
    (h' : Quoted quote text v' spans' behind') :
    v = v' ∧ spans = spans' ∧ behind = behind' := by
  induction h generalizing v' spans' with
  | close =>
    cases h' with
    | close => exact ⟨rfl, rfl, rfl⟩
    | character hquote | span hquote => exact absurd rfl hquote
  | character hquote hkind _ ih =>
    cases h' with
    | close => exact absurd rfl hquote
    | character _ _ next =>
      obtain ⟨rfl, rfl, rfl⟩ := ih next
      exact ⟨rfl, rfl, rfl⟩
    | span _ hkind' =>
      rw [hkind] at hkind'
      cases hkind'
  | span hquote hkind hlength _ ih =>
    cases h' with
    | close => exact absurd rfl hquote
    | character _ hkind' =>
      rw [hkind] at hkind'
      cases hkind'
    | span _ _ hlength' next =>
      rw [hlength] at hlength'
      cases hlength'
      obtain ⟨rfl, rfl, rfl⟩ := ih next
      exact ⟨rfl, rfl, rfl⟩

lemma Assigned.unique (h : Assigned text v spans behind)
    (h' : Assigned text v' spans' behind') :
    v = v' ∧ spans = spans' ∧ behind = behind' := by
  cases h with
  | bare hno =>
    cases h' with
    | bare => exact ⟨rfl, rfl, rfl⟩
    | quoted hequals => exact absurd hequals (hno _)
  | quoted hequals hopen _ hvalue =>
    cases h' with
    | bare hno => exact absurd hequals (hno _)
    | quoted hequals' hopen' _ hvalue' =>
      rw [hequals] at hequals'
      cases hequals'
      rw [hopen] at hopen'
      cases hopen'
      exact hvalue.unique hvalue'

/-- Where a name begins there is neither a blank nor the end of the tag. -/
lemma not_endsName_of_nameLength {c : Char} {rest : Text}
    (h : nameLength standard 0 (c :: rest) = n + 1) : endsName standard c rest = false := by
  rw [nameLength] at h
  split at h
  · cases h
  · rename_i hends
    simpa using hends

lemma Listed.unique {readings readings' : List Reading} (h : Listed text readings)
    (h' : Listed text readings') : readings = readings' := by
  have hclose : ∀ {n : Nat} {rest : Text}, nameLength standard 0 ('>' :: rest) ≠ n + 1 := by
    intro n rest hname
    exact absurd (not_endsName_of_nameLength hname) (by simp [endsName])
  have hself : ∀ {n : Nat} {rest : Text}, nameLength standard 0 ('/' :: '>' :: rest) ≠ n + 1 := by
    intro n rest hname
    exact absurd (not_endsName_of_nameLength hname) (by simp [endsName])
  have hblank : ∀ {n : Nat} {c : Char} {rest : Text}, Text.isBlank c = true →
      nameLength standard 0 (c :: rest) ≠ n + 1 := by
    intro n c rest hc hname
    exact absurd (not_endsName_of_nameLength hname) (by simp [endsName, hc])
  induction h generalizing readings' with
  | close =>
    cases h' with
    | close => rfl
    | blank hc => exact absurd hc (by decide)
    | assign hname => exact absurd hname hclose
  | selfClose =>
    cases h' with
    | selfClose => rfl
    | blank hc => exact absurd hc (by decide)
    | assign hname => exact absurd hname hself
  | blank hc _ ih =>
    cases h' with
    | close | selfClose => exact absurd hc (by decide)
    | blank _ next => exact ih next
    | assign hname => exact absurd hname (hblank hc)
  | assign hname hvalue _ ih =>
    cases h' with
    | close => exact absurd hname hclose
    | selfClose => exact absurd hname hself
    | blank hc => exact absurd hname (hblank hc)
    | assign hname' hvalue' next =>
      rw [hname] at hname'
      cases hname'
      obtain ⟨rfl, rfl, rfl⟩ := hvalue.unique hvalue'
      rw [ih next]

/-! ### Attributes are read by the grammar -/

lemma Quoted.text_eq (h : Quoted quote text v spans behind) : text = v ++ quote :: behind := by
  induction h with
  | close => rfl
  | character _ _ _ ih => rw [ih, List.cons_append]
  | span _ _ _ _ ih => simp only [List.cons_append, List.append_assoc, ← ih, List.take_append_drop]

/-- A quoted value ends where the grammar has it end. -/
theorem quotedLength_eq_ok_iff :
    quotedLength standard tag name true quote count text = .ok n ↔
      ∃ value spans behind, Quoted quote text value spans behind ∧ n = count + value.length := by
  constructor
  · intro h
    fun_induction quotedLength standard tag name true quote count text with
    | case1 => cases h
    | case2 count rest =>
      cases h
      exact ⟨[], [], rest, .close, rfl⟩
    | case3 count c rest hquote hkind ih =>
      obtain ⟨value, spans, behind, hvalue, rfl⟩ := ih h
      exact ⟨c :: value, spans, behind, hvalue.character hquote hkind, by simp; omega⟩
    | case4 | case5 | case6 => cases h
    | case7 count c rest hquote kind hkind hexpression k hlength ih =>
      obtain rfl : kind = .expression := by simpa using hexpression
      obtain ⟨value, spans, behind, hvalue, rfl⟩ := ih h
      refine ⟨_, _, behind, hvalue.span hquote hkind hlength, ?_⟩
      have hle := (length_pos_of_kindAt? hkind (Span.length_lenient hlength)).2
      simp only [List.length_cons, List.length_append, List.length_take] at hle ⊢
      omega
  · rintro ⟨value, spans, behind, h, rfl⟩
    induction h generalizing count with
    | close => rw [quotedLength, if_pos rfl, List.length_nil, Nat.add_zero]
    | character hquote hkind _ ih =>
      rw [quotedLength, if_neg hquote, hkind]
      simp only [ih, List.length_cons, Except.ok.injEq]
      omega
    | span hquote hkind hlength _ ih =>
      have hle := (length_pos_of_kindAt? hkind (Span.length_lenient hlength)).2
      rw [quotedLength, if_neg hquote, hkind]
      simp only [hlength, ih, List.length_cons, List.length_append, List.length_take, Except.ok.injEq,
        ne_eq, not_true, decide_false, Bool.and_false, Bool.false_eq_true, if_false] at hle ⊢
      omega

lemma exists_quoted_of_value (h : value standard tag name true text = .ok (v, n)) :
    ∃ quote inner spans, text = quote :: inner ∧ Span.isQuote quote = true ∧
      Quoted quote inner v spans (text.drop n) := by
  cases text with
  | nil => simp [value, value.bare] at h
  | cons c rest =>
    simp only [value] at h
    split at h
    · rename_i hquote
      split at h
      · cases h
      rename_i m hm
      cases h
      obtain ⟨value, spans, behind, hvalue, rfl⟩ := quotedLength_eq_ok_iff.mp hm
      refine ⟨c, rest, spans, rfl, hquote, ?_⟩
      rw [Nat.add_sub_cancel_left, List.drop_succ_cons, hvalue.text_eq, List.take_left, Nat.add_comm 1,
        ← List.drop_drop, List.drop_left, List.drop_one, List.tail_cons, ← hvalue.text_eq]
      exact hvalue
    · simp [value.bare] at h

lemma drop_length_takeWhile (p : Char → Bool) (text : Text) :
    text.drop (text.takeWhile p).length = text.dropWhile p := by
  conv_lhs => arg 2; rw [← List.takeWhile_append_dropWhile (p := p) (l := text)]
  rw [List.drop_left]

lemma exists_assigned (h : assigned standard tag name true text = .ok (v, n)) :
    ∃ spans, Assigned text v spans (text.drop n) := by
  simp only [assigned, drop_length_takeWhile] at h
  split at h
  · rename_i rest hequals
    split at h
    · cases h
    rename_i w m hvalue
    cases h
    obtain ⟨quote, inner, spans, hopen, hquote, hquoted⟩ := exists_quoted_of_value hvalue
    refine ⟨spans, .quoted hequals hopen hquote ?_⟩
    have hdrop : text.drop ((text.takeWhile Text.isBlank).length + 1) = rest := by
      rw [← List.drop_drop, drop_length_takeWhile, hequals, List.drop_one, List.tail_cons]
    rwa [← List.drop_drop, ← List.drop_drop, hdrop, drop_length_takeWhile]
  · rename_i hno
    cases h
    rw [drop_length_takeWhile]
    exact ⟨[], .bare hno⟩

/-- The attributes of a tag that is read strictly are those that the grammar lists. -/
lemma exists_listed {entries : Table Text Text} {a : Attributes}
    (h : attributes standard tag true count entries text = .ok a) :
    ∃ readings, Listed text readings ∧
      a.entries = entries ++ readings.map fun r => (r.name, r.value) := by
  fun_induction attributes standard tag true count entries text with
  | case1 | case5 | case6 | case7 | case9 | case11 | case12 => cases h
  | case2 count entries c rest hblank ih =>
    obtain ⟨readings, hlisted, hentries⟩ := ih h
    exact ⟨readings, hlisted.blank hblank, hentries⟩
  | case3 count entries c rest hblank hclose =>
    cases h
    obtain rfl := eq_of_beq hclose
    exact ⟨[], .close, by simp⟩
  | case4 count entries c rest hblank hclose hself =>
    cases h
    obtain ⟨rfl, hrest⟩ : c = '/' ∧ rest.head? = some '>' := by simpa using hself
    obtain ⟨rest, rfl⟩ := List.head?_eq_some_iff.mp hrest
    exact ⟨[], .selfClose, by simp⟩
  | case8 _ _ _ _ _ _ _ _ hlenient => exact absurd rfl hlenient
  | case10 _ _ _ _ _ _ _ _ _ hlenient => exact absurd rfl hlenient
  | case13 count entries c rest hblank hclose hself hspan n hname name v m hassigned hnew ih =>
    obtain ⟨readings, hlisted, hentries⟩ := ih h
    obtain ⟨spans, hvalue⟩ := exists_assigned hassigned
    refine ⟨_, .assign hname hvalue hlisted, ?_⟩
    have hnot : name ∉ Table.keys entries := by
      rw [← Table.has_iff]
      simpa using hnew
    rw [hentries, Table.set_of_not_mem hnot, List.append_assoc]
    rfl

/-! ### Parsed templates -/

/-- The attributes of a component in a template are those that its tag is read as. -/
def ListsAttributes (template : Text) : Node → Prop
  | .raw _ => True
  | .component tag entries _ _ offset =>
    ∃ (place : Nat) (readings : List Reading), offset = place ∧
      Listed (template.drop (place + 1 + tag.length)) readings ∧
      entries = readings.map fun r => (r.name, r.value)

lemma IsOpeningTag.exists_listed {first last : Nat} {entries : Table Text Text} {selfClosing : Bool}
    (h : IsOpeningTag standard text first last tag entries selfClosing) (children : List Node) :
    ListsAttributes text (.component tag entries children selfClosing first) := by
  obtain ⟨count, -, hattributes⟩ := h.attributes_eq
  obtain ⟨readings, hlisted, hentries⟩ := Markup.exists_listed hattributes
  exact ⟨first, readings, rfl, hlisted, hentries⟩

/-- The nodes that tile a part of a template list their attributes. -/
lemma Tiles.listsAttributes {first last : Nat} {nodes : List Node}
    (h : Tiles standard text first nodes last) : Everywhere (ListsAttributes text) nodes := by
  induction nodes using Node.list_induction generalizing first last with
  | nil => exact Node.everywhere_nil
  | raw content rest ih =>
    cases h with
    | cons _ hrest => exact Node.everywhere_raw_iff.mpr ⟨trivial, ih hrest⟩
  | component tag entries children selfClosing offset rest ihChildren ihRest =>
    cases h with
    | cons hnode hrest =>
      rw [Node.everywhere_component_iff]
      cases hnode with
      | leaf hopen => exact ⟨hopen.exists_listed _, Node.everywhere_nil, ihRest hrest⟩
      | pair hopen hchildren => exact ⟨hopen.exists_listed _, ihChildren hchildren, ihRest hrest⟩

/-- The components of a parsed template list the attributes that their tags are read as. -/
lemma listed_of_parseWithin {levels : Nat} {components : List Text} {template : Option Text}
    {parsed : Parsed} (h : parseWithin levels text components standard template = .ok parsed) :
    Everywhere (ListsAttributes text) parsed.nodes :=
  (parseWithin_tiles h).listsAttributes

end ComponentTags.Markup
