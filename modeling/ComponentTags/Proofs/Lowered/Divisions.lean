/-
# Values of attributes as expressions

The value of an attribute is scanned twice: in the template, to find its end, and by itself, to become an
expression.  Both find the same spans.  With them a value is divided in one way only into texts without
an opening delimiter (`Division.unique`), and its expression is made of these texts and of what the spans
hold, in their order (`survives_of_parseWithin`).
-/
import ComponentTags.Lowered.Write
import ComponentTags.Proofs.Lowered.Steps
import ComponentTags.Proofs.Markup.Readings

namespace ComponentTags

open Delimiters (standard)
open ComponentTags.Span (enclosed)
open Markup (Quoted Assigned Listed Reading)
open Node (Everywhere)

/-! ### Divisions -/

/-- A text divided at some of its spans. -/
structure Division where
  /-- The text in front of the first span. -/
  first : Text
  /-- The spans, each with the text between it and the next one. -/
  rest : List (Text × Text)

namespace Division

/-- The divided text. -/
def text (s : Division) : Text := s.first ++ s.rest.flatMap fun (span, behind) => span ++ behind

/-- The spans. -/
def spans (s : Division) : List Text := s.rest.map Prod.fst

/-- The texts around the spans. -/
def texts (s : Division) : List Text := s.first :: s.rest.map Prod.snd

/-- No expression begins in the texts around the spans. -/
def IsPlain (s : Division) : Prop := ∀ text ∈ s.texts, ¬standard.expressionStart <:+: text

/-- What an expression span holds, without control signs and blanks. -/
def body (span : Text) : Text := Text.trim (Span.split standard .expression span).body

/-- A text between spans as a part of a value. -/
def literalPart (text : Text) : List ValuePart := if text.isEmpty then [] else [.literal text]

/-- The parts of the divided text. -/
def parts (s : Division) : List ValuePart :=
  literalPart s.first ++ s.rest.flatMap fun (span, behind) => .expression (body span) :: literalPart behind

/-- A text between spans as a term of an expression. -/
def literalTerm (text : Text) : List Text := if text.isEmpty then [] else [stringLiteral text]

/-- The terms of the divided text as an expression. -/
def terms (s : Division) : List Text :=
  literalTerm s.first ++ s.rest.flatMap fun (span, behind) => ("(" ++ body span ++ ")") :: literalTerm behind

/-- Another character in front. -/
def cons (c : Char) (s : Division) : Division := ⟨c :: s.first, s.rest⟩

/-- A span in front. -/
def consSpan (span : Text) (s : Division) : Division := ⟨[], (span, s.first) :: s.rest⟩

variable {s s' : Division} {c : Char} {span : Text}

@[simp] lemma text_cons : (s.cons c).text = c :: s.text := rfl

@[simp] lemma spans_cons : (s.cons c).spans = s.spans := rfl

@[simp] lemma text_consSpan : (s.consSpan span).text = span ++ s.text := by
  simp [consSpan, text]

@[simp] lemma spans_consSpan : (s.consSpan span).spans = span :: s.spans := rfl

lemma isPlain_cons (hs : s.IsPlain) (hc : ¬standard.expressionStart <+: c :: s.text) :
    (s.cons c).IsPlain := by
  simp only [IsPlain, texts, cons, List.forall_mem_cons] at hs ⊢
  refine ⟨fun hinfix => ?_, hs.2⟩
  obtain hstart | hinfix := List.infix_cons_iff.mp hinfix
  · exact hc (hstart.trans ⟨_, rfl⟩)
  · exact hs.1 hinfix

lemma isPlain_consSpan (hs : s.IsPlain) : (s.consSpan span).IsPlain := by
  simp only [IsPlain, texts, consSpan, List.forall_mem_cons, List.map_cons] at hs ⊢
  exact ⟨fun hinfix => absurd (List.infix_nil.mp hinfix) (by decide), hs⟩

lemma map_write_parts : s.parts.map ValuePart.write = s.terms := by
  have hliteral : ∀ text, (literalPart text).map ValuePart.write = literalTerm text := by
    intro text
    unfold literalPart literalTerm
    split <;> rfl
  simp only [parts, terms, List.map_append, hliteral, List.map_flatMap, List.map_cons]
  rfl

/-! #### Uniqueness -/

/-- A text that is found again one place later consists of one character only. -/
lemma eq_of_shifted {a : Char} {l r r' : Text} (h : l ++ r = a :: (l ++ r')) : ∀ x ∈ l, x = a := by
  induction l generalizing a with
  | nil => simp
  | cons x l ih =>
    injection h with hx hl
    subst hx
    exact List.forall_mem_cons.mpr ⟨rfl, ih hl⟩

/-- A span is found again behind a text only if an expression begins in that text. -/
lemma eq_nil_of_append_span {inside u r r' : Text} (hu : ¬standard.expressionStart <:+: u)
    (h : enclosed .expression inside ++ r = u ++ (enclosed .expression inside ++ r')) : u = [] := by
  have hspan : enclosed .expression inside = '\x7b' :: '\x7b' :: (inside ++ ['\x7d', '\x7d']) := rfl
  match u with
  | [] => rfl
  | [a] =>
    -- the span would consist of opening braces only
    have hall := eq_of_shifted h
    have hopen := hall '\x7b' (by simp [hspan])
    have hclose := hall '\x7d' (by simp [hspan])
    rw [← hclose] at hopen
    exact absurd hopen (by decide)
  | a :: b :: u =>
    rw [hspan] at h
    injection h with ha h
    injection h with hb h
    subst ha hb
    exact absurd ⟨[], u, rfl⟩ hu

/-- In front of a span there is one text only in which no expression begins. -/
lemma eq_of_append_span {inside t t' r r' : Text} (ht : ¬standard.expressionStart <:+: t)
    (ht' : ¬standard.expressionStart <:+: t')
    (h : t ++ (enclosed .expression inside ++ r) = t' ++ (enclosed .expression inside ++ r')) :
    t = t' := by
  obtain ⟨u, rfl, hu⟩ | ⟨u, rfl, hu⟩ := List.append_eq_append_iff.mp h
  · obtain rfl := eq_nil_of_append_span (fun hin => ht' (hin.trans (List.suffix_append _ _).isInfix)) hu
    rw [List.append_nil]
  · obtain rfl := eq_nil_of_append_span (fun hin => ht (hin.trans (List.suffix_append _ _).isInfix)) hu
    rw [List.append_nil]

/-- A text is divided at its spans in one way only. -/
theorem unique (hspans : ∀ span ∈ s.spans, ∃ inside, span = enclosed .expression inside)
    (hs : s.IsPlain) (hs' : s'.IsPlain) (h : s'.spans = s.spans) (htext : s'.text = s.text) :
    s' = s := by
  obtain ⟨first, rest⟩ := s
  obtain ⟨first', rest'⟩ := s'
  simp only [IsPlain, texts, spans, text, List.forall_mem_cons] at hspans hs hs' h htext
  induction rest generalizing first first' rest' with
  | nil =>
    obtain rfl : rest' = [] := by simpa using h
    simpa using htext
  | cons entry rest ih =>
    obtain ⟨span, behind⟩ := entry
    obtain ⟨⟨span', behind'⟩, rest', rfl⟩ : ∃ entry' more, rest' = entry' :: more := by
      cases rest' with
      | nil => simp at h
      | cons entry' more => exact ⟨entry', more, rfl⟩
    simp only [List.map_cons, List.cons.injEq, List.forall_mem_cons, List.flatMap_cons,
      List.append_assoc] at hspans hs hs' h htext
    obtain ⟨rfl, h⟩ := h
    obtain ⟨⟨inside, rfl⟩, hspans⟩ := hspans
    obtain rfl := eq_of_append_span hs'.1 hs.1 htext
    rw [List.append_cancel_left_eq, List.append_cancel_left_eq] at htext
    have hmore := ih behind hspans behind' rest' h htext hs.2 hs'.2
    cases hmore
    rfl

end Division

/-! ### A value is divided as it was read -/

variable {quote : Char} {source value behind : Text} {spans : List Text}

lemma heldPart_reverse (text : Text) : heldPart text.reverse = Division.literalPart text := by
  simp [heldPart, Division.literalPart]

/-- The spans that were skipped are expressions. -/
lemma exists_enclosed_of_quoted (h : Quoted quote source value spans behind) :
    ∀ span ∈ spans, ∃ inside, span = enclosed .expression inside := by
  induction h with
  | close => simp
  | character _ _ _ ih => exact ih
  | @span c n rest _ _ _ _ hkind hlength _ ih =>
    refine List.forall_mem_cons.mpr ⟨?_, ih⟩
    obtain ⟨span, behind, htext, hspan, -, hskip | ⟨inside, rfl, -⟩⟩ :=
      Span.whole_of_length hkind (Span.length_lenient hlength)
    · obtain hcomment | ⟨hstatement, -⟩ := hskip
      · cases hcomment
      · cases hstatement
    · refine ⟨inside, ?_⟩
      rw [← List.take_succ_cons, htext, List.take_left' hspan]

/-- A value has a division with the spans that were skipped, and scanning it by itself gives the parts of
that division. -/
lemma exists_division (h : Quoted quote source value spans behind) :
    ∃ s : Division, s.text = value ∧ s.spans = spans ∧ s.IsPlain ∧
      ∀ count held, partsFrom standard count held value =
        .ok (Division.parts ⟨held.reverse ++ s.first, s.rest⟩) := by
  induction h with
  | close =>
    refine ⟨⟨[], []⟩, rfl, rfl, ?_, fun count held => ?_⟩
    · rintro text hmem hinfix
      obtain rfl := List.mem_singleton.mp hmem
      exact absurd (List.infix_nil.mp hinfix) (by decide)
    · rw [partsFrom, ← List.reverse_reverse held, heldPart_reverse]
      simp [Division.parts]
  | @character c rest value behind spans hquote hkind next ih =>
    obtain ⟨s, rfl, rfl, hplain, hparts⟩ := ih
    -- what is behind the character in the value is also behind it in the template
    have hno : Span.kindAt? standard (c :: s.text) = none := by
      have htake := kindAt?_take_eq_none hkind s.text.length
      rwa [next.text_eq, List.take_left] at htake
    refine ⟨s.cons c, rfl, rfl, Division.isPlain_cons hplain fun hstart => ?_, fun count held => ?_⟩
    · rw [Span.kindAt?_eq_some_iff.mpr (show standard.start .expression <+: _ from hstart)] at hno
      cases hno
    · rw [partsFrom, if_neg (by simp [hno]), hparts]
      simp [Division.cons]
  | @span c n rest value behind spans hquote hkind hlength next ih =>
    obtain ⟨s, rfl, rfl, hplain, hparts⟩ := ih
    refine ⟨s.consSpan (c :: rest.take n), by simp, by simp, Division.isPlain_consSpan hplain,
      fun count held => ?_⟩
    obtain ⟨span, after, htext, hspan, hwhole, -⟩ :=
      Span.whole_of_length hkind (Span.length_lenient hlength)
    obtain rfl : span = c :: rest.take n := by
      rw [← List.take_succ_cons, htext, List.take_left' hspan]
    refine (partsFrom_whole_eq_ok_iff hwhole).mpr ⟨_, hparts _ _, ?_⟩
    rw [← List.reverse_reverse held, heldPart_reverse]
    simp [Division.consSpan, Division.parts, Division.body]

/-- The value of an attribute is divided in one way only into the spans that were skipped and texts in
which no expression begins.  The terms of the expression that is made of the value are those of the
division; the expression of an empty value is the empty string literal, and that of a single span what
the span holds. -/
structure Survives (r : Reading) (s : Division) : Prop where
  text_eq : s.text = r.value
  spans_eq : s.spans = r.spans
  plain : s.IsPlain
  unique : ∀ s' : Division, s'.text = r.value → s'.spans = r.spans → s'.IsPlain → s' = s
  expression : ∃ parts, valueParts standard r.value = .ok parts ∧
    writeValue parts = (if r.value = [] then stringLiteral [] else Text.join " ~ " s.terms) ∧
    (r.spans = [r.value] → writeValue parts = "(" ++ Division.body r.value ++ ")")

namespace Division

variable {s : Division}

lemma eq_nil_of_parts (h : s.parts = []) : s.text = [] := by
  obtain ⟨first, rest⟩ := s
  simp only [parts, literalPart, List.append_eq_nil_iff, ite_eq_left_iff, List.flatMap_eq_nil_iff] at h
  obtain ⟨hfirst, hrest⟩ := h
  cases rest with
  | nil => simpa [text] using hfirst
  | cons entry rest => exact absurd (hrest entry (by simp)) (by simp)

lemma parts_of_nil (hspans : ∀ span ∈ s.spans, ∃ inside, span = enclosed .expression inside)
    (h : s.text = []) : s.parts = [] := by
  obtain ⟨first, rest⟩ := s
  obtain ⟨rfl, hrest⟩ := List.append_eq_nil_iff.mp h
  cases rest with
  | nil => rfl
  | cons entry rest =>
    obtain ⟨span, behind⟩ := entry
    obtain ⟨inside, rfl⟩ := hspans span (by simp [spans])
    exact absurd hrest (List.cons_ne_nil _ _)

lemma terms_of_single (h : s.spans = [s.text]) : s.terms = ["(" ++ body s.text ++ ")"] := by
  obtain ⟨first, rest⟩ := s
  obtain ⟨⟨span, behind⟩, rfl, hspan⟩ := List.map_eq_singleton_iff.mp h
  -- nothing is left for the texts around a span that is as long as the whole text
  have hlength := congrArg List.length hspan
  simp only [text, List.flatMap_cons, List.flatMap_nil, List.append_nil, List.length_append] at hlength
  obtain rfl : first = [] := List.eq_nil_of_length_eq_zero (by omega)
  obtain rfl : behind = [] := List.eq_nil_of_length_eq_zero (by omega)
  simp [terms, literalTerm, text]

/-- The expression of a value is made of the terms of its division. -/
lemma exists_valueParts (hspans : ∀ span ∈ s.spans, ∃ inside, span = enclosed .expression inside)
    (hparts : partsFrom standard 0 [] s.text = .ok s.parts) :
    ∃ parts, valueParts standard s.text = .ok parts ∧
      writeValue parts = (if s.text = [] then stringLiteral [] else Text.join " ~ " s.terms) ∧
      (s.spans = [s.text] → writeValue parts = "(" ++ body s.text ++ ")") := by
  rw [valueParts, hparts]
  split
  · rename_i h
    cases h
  · rename_i h
    have hparts : s.parts = [] := Except.ok.inj h
    refine ⟨_, rfl, by rw [if_pos (eq_nil_of_parts hparts)]; rfl, fun hsingle => ?_⟩
    -- there is a part for every span
    have hterms := map_write_parts (s := s)
    rw [hparts, terms_of_single hsingle] at hterms
    cases hterms
  · rename_i parts hne h
    cases h
    have hwrite : writeValue s.parts = Text.join " ~ " s.terms := by rw [writeValue, map_write_parts]
    refine ⟨_, rfl, ?_, fun hsingle => by rw [hwrite, terms_of_single hsingle]; rfl⟩
    rw [if_neg (mt (parts_of_nil hspans) hne), hwrite]

end Division

lemma exists_survives_of_quoted {name : Text} (h : Quoted quote source value spans behind) :
    ∃ s, Survives ⟨name, value, spans⟩ s := by
  have hspans := exists_enclosed_of_quoted h
  obtain ⟨s, rfl, rfl, hplain, hparts⟩ := exists_division h
  exact ⟨s, rfl, rfl, hplain, fun s' htext hspans' hplain' =>
      Division.unique hspans hplain hplain' hspans' htext,
    Division.exists_valueParts hspans (hparts 0 [])⟩

lemma exists_survives_of_assigned {name : Text} (h : Assigned source value spans behind) :
    ∃ s, Survives ⟨name, value, spans⟩ s := by
  cases h with
  | bare =>
    -- the value that is not written is that of quoted text without spans
    have hbare : Quoted '"' (Markup.bareValue ++ ['"']) Markup.bareValue [] [] :=
      .character (by decide) rfl (.character (by decide) rfl (.character (by decide) rfl
        (.character (by decide) rfl .close)))
    exact exists_survives_of_quoted hbare
  | quoted _ _ _ hvalue => exact exists_survives_of_quoted hvalue

lemma exists_survives_of_listed {readings : List Reading} (h : Listed source readings) :
    ∀ r ∈ readings, ∃ s, Survives r s := by
  induction h with
  | close | selfClose => simp
  | blank _ _ ih => exact ih
  | assign _ hvalue _ ih => exact List.forall_mem_cons.mpr ⟨exists_survives_of_assigned hvalue, ih⟩

/-- The values of the attributes of a parsed template become expressions that are made of what was read:
the attributes of a component are those that its tag is read as, in the only way that it can be, and
each value survives. -/
theorem survives_of_parseWithin {levels : Nat} {source : Text} {components : List Text}
    {template : Option Text} {parsed : Markup.Parsed}
    (h : Markup.parseWithin levels source components standard template = .ok parsed) :
    ∀ tag entries children selfClosing (offset : Int),
      .component tag entries children selfClosing offset ∈ Node.walk parsed.nodes →
        ∃ (place : Nat) (readings : List Reading), offset = place ∧
          (∀ other, Listed (source.drop (place + 1 + tag.length)) other ↔ other = readings) ∧
          entries = (readings.map fun r => (r.name, r.value)) ∧
          ∀ r ∈ readings, ∃ s, Survives r s := by
  intro tag entries children selfClosing offset hmem
  obtain ⟨place, readings, hplace, hlisted, hentries⟩ := Markup.listed_of_parseWithin h _ hmem
  refine ⟨place, readings, hplace, fun other => ⟨fun hother => hother.unique hlisted, ?_⟩, hentries,
    exists_survives_of_listed hlisted⟩
  rintro rfl
  exact hlisted

/-- A value in which the closing delimiter and the quote stand in an expression. -/
theorem survives_of_parseWithin_quotes :
    Markup.parseWithin 0 "<A p=\"\x7b\x7b \"\x7d\x7d\" -\x7d\x7db\"/>" ["A"] =
        .ok ⟨[.component "A" [("p", "\x7b\x7b \"\x7d\x7d\" -\x7d\x7db")] [] true 0], []⟩ ∧
      ∃ s, Survives ⟨"p", "\x7b\x7b \"\x7d\x7d\" -\x7d\x7db", ["\x7b\x7b \"\x7d\x7d\" -\x7d\x7d"]⟩ s ∧
        s.terms = ["(\"\x7d\x7d\")", "\"b\""] := by
  have hparse : Markup.parseWithin 0 "<A p=\"\x7b\x7b \"\x7d\x7d\" -\x7d\x7db\"/>" ["A"] =
      .ok ⟨[.component "A" [("p", "\x7b\x7b \"\x7d\x7d\" -\x7d\x7db")] [] true 0], []⟩ := by
    with_unfolding_all rfl
  have hquoted : Quoted '"' "\x7b\x7b \"\x7d\x7d\" -\x7d\x7db\"/>" "\x7b\x7b \"\x7d\x7d\" -\x7d\x7db"
      ["\x7b\x7b \"\x7d\x7d\" -\x7d\x7d"] "/>" :=
    .span (n := 10) (by decide) rfl (by with_unfolding_all rfl) (.character (by decide) rfl .close)
  have hlisted : Listed " p=\"\x7b\x7b \"\x7d\x7d\" -\x7d\x7db\"/>"
      [⟨"p", "\x7b\x7b \"\x7d\x7d\" -\x7d\x7db", ["\x7b\x7b \"\x7d\x7d\" -\x7d\x7d"]⟩] :=
    .blank rfl (.assign (n := 0) rfl (.quoted rfl rfl rfl hquoted) .selfClose)
  obtain ⟨place, readings, hplace, hreadings, -, hsurvive⟩ :=
    survives_of_parseWithin hparse _ _ _ _ _ (List.mem_singleton_self _)
  obtain rfl : place = 0 := by omega
  obtain rfl := (hreadings _).mp hlisted
  obtain ⟨s, hs⟩ := hsurvive _ (List.mem_singleton_self _)
  refine ⟨hparse, s, hs, ?_⟩
  rw [← hs.unique ⟨[], [("\x7b\x7b \"\x7d\x7d\" -\x7d\x7d", "b")]⟩ rfl rfl (by unfold Division.IsPlain; decide)]
  with_unfolding_all rfl

end ComponentTags
