/-
# Reading content in steps

`readContent` reads the content of a template or of a component in one recursion.  This file takes
the recursion apart into steps: a piece of markup is passed, a tag becomes raw text, or a tag becomes
a component, whose content is read in steps of its own (`Steps`).  Content is read successfully when
steps lead to its end (`read_eq_ok_iff`), and reading it fails when they lead to a fault, in the content
or in that of a component in it (`read_eq_error_iff`).

A step says what the text at a place means, and it says so independently of what was read before.
Two readings of one text with different known components can therefore be compared step by step.
-/
import ComponentTags.Markup.Parse
import Mathlib.Tactic.Common

namespace ComponentTags.Markup

/-! ### Progress -/

/-- How far content has been read. -/
structure Progress where
  /-- The place that was reached. -/
  place : Nat
  /-- The text held back, in reverse order. -/
  held : Text
  /-- The nodes read so far, in reverse order. -/
  nodes : List Node
  /-- The names deferred so far. -/
  deferred : List Text
  /-- What is still to be read. -/
  rest : Text

namespace Progress

/-- The beginning of content. -/
def start (place : Nat) (rest : Text) : Progress := ⟨place, [], [], [], rest⟩

/-- The nodes of content that ends here. -/
def content (p : Progress) : List Node := (flush p.held p.nodes).reverse

/-- The progress when `n` more characters are held back. -/
def pass (p : Progress) (n : Nat) : Progress :=
  ⟨p.place + n, hold p.held n p.rest, p.nodes, p.deferred, p.rest.drop n⟩

/-- The progress when the next `n` characters become a node and names are deferred. -/
def add (p : Progress) (n : Nat) (node : Node) (names : List Text) : Progress :=
  ⟨p.place + n, [], node :: flush p.held p.nodes, p.deferred ++ names, p.rest.drop n⟩

/-- Reads on from here. -/
def read (s : Setting) (levels : Nat) (opened : Option Opened) (p : Progress) :
    Except Fault ContentReading :=
  readContent s levels opened p.place p.held p.nodes p.deferred p.rest

end Progress

/-! ### Steps -/

/-- No span begins at the front of a text. -/
def NoSpan (d : Delimiters) (text : Text) : Prop := ¬(Span.kindAt? d text).isSome = true

/-- The next `n` characters are kept as they are: a span, a character, the closing tag of nothing that
is known, a declaration or a comment. -/
inductive Passes (s : Setting) (opened : Option Text) : Text → Nat → Prop
  | span {c : Char} {rest : Text} {n : Nat}
      (hkind : (Span.kindAt? s.delimiters (c :: rest)).isSome = true)
      (hlength : Span.length s.delimiters false (c :: rest) = .ok (n + 1)) :
      Passes s opened (c :: rest) (n + 1)
  | character {c : Char} {rest : Text} (hspan : NoSpan s.delimiters (c :: rest)) (hc : c ≠ '<') :
      Passes s opened (c :: rest) 1
  | closing {rest name : Text} {n : Nat} (hspan : NoSpan s.delimiters ('<' :: '/' :: rest))
      (hclosing : closingTag rest = .ok (name, n)) (hopened : opened ≠ some name)
      (hunknown : name ∉ s.components) : Passes s opened ('<' :: '/' :: rest) (2 + n)
  | declaration {rest : Text} {n : Nat} (hspan : NoSpan s.delimiters ('<' :: rest))
      (hslash : rest.head? ≠ some '/') (hletter : rest.head?.any Text.isLetter = false)
      (hlength : declarationLength rest = .ok n) : Passes s opened ('<' :: rest) n

/-- The text `rest` follows the `<` of an opening tag whose name and attributes are read. -/
structure OpensTag (d : Delimiters) (strict : Bool) (rest name : Text) (a : Attributes) : Prop where
  no_span : NoSpan d ('<' :: rest)
  letter : rest.head?.any Text.isLetter = true
  name_eq : rest.takeWhile (!endsTagName ·) = name
  attributes_eq : attributes d name strict 0 [] (rest.drop name.length) = .ok a

/-- The number of characters of an opening tag. -/
def tagLength (name : Text) (a : Attributes) : Nat := name.length + a.count + 1

/-- The `n` characters at `place`, of which `rest` follows the `<`, are a tag that stays raw text and
defers some names: the tag of an element, with its text if it has only text, or a tag that may become
a component later. -/
inductive Literal (s : Setting) (place : Nat) (rest : Text) : Nat → List Text → Prop
  | element {name : Text} {a : Attributes} (htag : OpensTag s.delimiters false rest name a)
      (hname : isComponentName name = false) :
      Literal s place rest
        (tagLength name a + if isRawTextName name && !a.selfClosing then
          rawTextLength s name (place + tagLength name a) (rest.drop (name.length + a.count)) else 0) []
  | unknown {name : Text} {a : Attributes} (htag : OpensTag s.delimiters false rest name a)
      (hname : isComponentName name = true) (hunknown : name ∉ s.components) :
      Literal s place rest (tagLength name a) (if isElementName name then [] else [name])

/-- The text `rest` follows the `<` of the opening tag of a known component. -/
structure OpensComponent (s : Setting) (rest name : Text) (a : Attributes) : Prop where
  tag : OpensTag s.delimiters true rest name a
  name_capital : isComponentName name = true
  known : name ∈ s.components

/-- A text begins with the closing tag of a component, which has `n` characters. -/
inductive Closes (d : Delimiters) (name : Text) : Text → Nat → Prop
  | intro {rest : Text} {n : Nat} (hspan : NoSpan d ('<' :: '/' :: rest))
      (hclosing : closingTag rest = .ok (name, n)) : Closes d name ('<' :: '/' :: rest) (2 + n)

/-- Steps lead from one progress to another one in the content of the component `opened`, or of the
template if no component is open. -/
inductive Steps (s : Setting) : Nat → Option Text → Progress → Progress → Prop
  | refl {levels : Nat} {opened : Option Text} {p : Progress} : Steps s levels opened p p
  | pass {levels n : Nat} {opened : Option Text} {p q : Progress} (h : Passes s opened p.rest n)
      (next : Steps s levels opened (p.pass n) q) : Steps s levels opened p q
  | literal {levels n : Nat} {opened : Option Text} {p q : Progress} {rest : Text}
      {names : List Text} (hrest : p.rest = '<' :: rest) (h : Literal s p.place rest n names)
      (next : Steps s levels opened (p.add n (.raw (p.rest.take n)) names) q) :
      Steps s levels opened p q
  | leaf {levels : Nat} {opened : Option Text} {p q : Progress} {rest name : Text} {a : Attributes}
      (hrest : p.rest = '<' :: rest) (h : OpensComponent s rest name a)
      (hself : a.selfClosing = true)
      (next : Steps s levels opened
        (p.add (tagLength name a) (.component name a.entries [] true p.place) []) q) :
      Steps s levels opened p q
  | component {levels n : Nat} {opened : Option Text} {p q inner : Progress} {rest name : Text}
      {a : Attributes} (hrest : p.rest = '<' :: rest) (h : OpensComponent s rest name a)
      (hself : a.selfClosing = false)
      (content : Steps s levels (some name)
        (.start (p.place + tagLength name a) (p.rest.drop (tagLength name a))) inner)
      (hclose : Closes s.delimiters name inner.rest n)
      (next : Steps s (levels + 1) opened
        (p.add (inner.place + n - p.place) (.component name a.entries inner.content false p.place)
          inner.deferred) q) :
      Steps s (levels + 1) opened p q

/-- The content of the component `opened`, or of the template if no component is open, ends here. -/
inductive Ends (s : Setting) : Option Text → Progress → ContentReading → Prop
  | template {p : Progress} (h : p.rest = []) : Ends s none p ⟨p.content, p.place, p.deferred⟩
  | component {p : Progress} {name : Text} {n : Nat} (h : Closes s.delimiters name p.rest n) :
      Ends s (some name) p ⟨p.content, p.place + n, p.deferred⟩

/-- The fault of a known component that is closed where it is not the one that is open. -/
def strayClosing (opened : Option Text) (name : Text) : Malformed :=
  match opened with
  | none => .unexpectedClosing name
  | some outer => .mismatchedClosing name outer

/-- The text at a place can neither be passed nor end the content, nor is it a tag that can be read. -/
inductive Fails (s : Setting) (opened : Option Opened) (place : Nat) : Text → Fault → Prop
  | unclosed {o : Opened} (hopened : opened = some o) :
      Fails s opened place [] ⟨o.place, .unclosed o.tag⟩
  | span {c : Char} {rest : Text} {f : Fault}
      (hkind : (Span.kindAt? s.delimiters (c :: rest)).isSome = true)
      (hlength : Span.length s.delimiters false (c :: rest) = .error f) :
      Fails s opened place (c :: rest) (f.shift place)
  | emptySpan {c : Char} {rest : Text}
      (hkind : (Span.kindAt? s.delimiters (c :: rest)).isSome = true)
      (hlength : Span.length s.delimiters false (c :: rest) = .ok 0) :
      Fails s opened place (c :: rest) ⟨place, .emptySpan⟩
  | closing {rest : Text} {f : Fault} (hspan : NoSpan s.delimiters ('<' :: '/' :: rest))
      (hclosing : closingTag rest = .error f) :
      Fails s opened place ('<' :: '/' :: rest) (f.shift place)
  | stray {rest name : Text} {n : Nat} (hspan : NoSpan s.delimiters ('<' :: '/' :: rest))
      (hclosing : closingTag rest = .ok (name, n)) (hopened : opened.map Opened.tag ≠ some name)
      (hknown : name ∈ s.components) :
      Fails s opened place ('<' :: '/' :: rest) ⟨place, strayClosing (opened.map Opened.tag) name⟩
  | declaration {rest : Text} {f : Fault} (hspan : NoSpan s.delimiters ('<' :: rest))
      (hslash : rest.head? ≠ some '/') (hletter : rest.head?.any Text.isLetter = false)
      (hlength : declarationLength rest = .error f) :
      Fails s opened place ('<' :: rest) (f.shift place)
  | tagName {rest name : Text} (hspan : NoSpan s.delimiters ('<' :: rest))
      (hletter : rest.head?.any Text.isLetter = true)
      (hname : rest.takeWhile (!endsTagName ·) = name) (hbehind : rest.drop name.length = []) :
      Fails s opened place ('<' :: rest) ⟨place, .endInTagName⟩
  | attributes {rest name : Text} {f : Fault} (hspan : NoSpan s.delimiters ('<' :: rest))
      (hletter : rest.head?.any Text.isLetter = true)
      (hname : rest.takeWhile (!endsTagName ·) = name) (hbehind : rest.drop name.length ≠ [])
      (hattributes : attributes s.delimiters name
        (isComponentName name && s.components.contains name) 0 [] (rest.drop name.length) = .error f) :
      Fails s opened place ('<' :: rest) (f.shift (place + 1 + name.length))

/-- Reading content leads to a fault: in steps to the place where it fails, or into the content of a
component. -/
inductive Breaks (s : Setting) : Nat → Option Opened → Progress → Fault → Prop
  | here {levels : Nat} {opened : Option Opened} {p q : Progress} {f : Fault}
      (hsteps : Steps s levels (opened.map Opened.tag) p q) (h : Fails s opened q.place q.rest f) :
      Breaks s levels opened p f
  | tooDeep {opened : Option Opened} {p q : Progress} {rest name : Text} {a : Attributes}
      (hsteps : Steps s 0 (opened.map Opened.tag) p q) (hrest : q.rest = '<' :: rest)
      (h : OpensComponent s rest name a) (hself : a.selfClosing = false) :
      Breaks s 0 opened p ⟨q.place, .nestedTooDeeply⟩
  | inside {levels : Nat} {opened : Option Opened} {p q : Progress} {f : Fault} {rest name : Text}
      {a : Attributes} (hsteps : Steps s (levels + 1) (opened.map Opened.tag) p q)
      (hrest : q.rest = '<' :: rest) (h : OpensComponent s rest name a) (hself : a.selfClosing = false)
      (content : Breaks s levels (some ⟨name, q.place⟩)
        (.start (q.place + tagLength name a) (q.rest.drop (tagLength name a))) f) :
      Breaks s (levels + 1) opened p f

namespace Steps

variable {s : Setting} {levels : Nat} {opened : Option Text} {p q r : Progress}

lemma trans (h : Steps s levels opened p q) (h' : Steps s levels opened q r) :
    Steps s levels opened p r := by
  induction h with
  | refl => exact h'
  | pass h _ ih => exact .pass h (ih h')
  | literal hrest h _ ih => exact .literal hrest h (ih h')
  | leaf hrest h hself _ ih => exact .leaf hrest h hself (ih h')
  | component hrest h hself content hclose _ _ ih =>
    exact .component hrest h hself content hclose (ih h')

/-- Steps only go forward, and what is still to be read is what lies behind the place. -/
lemma rest_eq (h : Steps s levels opened p q) :
    p.place ≤ q.place ∧ q.rest = p.rest.drop (q.place - p.place) := by
  -- a step of `n` characters, however it is made
  have behind : ∀ {n : Nat} {p q : Progress}, p.place + n ≤ q.place →
      q.rest = (p.rest.drop n).drop (q.place - (p.place + n)) →
      p.place ≤ q.place ∧ q.rest = p.rest.drop (q.place - p.place) := by
    intro n p q hplace hrest
    refine ⟨by omega, ?_⟩
    rw [hrest, List.drop_drop]
    congr 1
    omega
  induction h with
  | refl => simp
  | pass _ _ ih => exact behind ih.1 ih.2
  | literal _ _ _ ih => exact behind ih.1 ih.2
  | leaf _ _ _ _ ih => exact behind ih.1 ih.2
  | component _ _ _ _ _ _ _ ih => exact behind ih.1 ih.2

end Steps

/-- A fault that is met behind some steps. -/
lemma Breaks.after {s : Setting} {levels : Nat} {opened : Option Opened} {p q : Progress} {f : Fault}
    (h : Breaks s levels opened q f) (hsteps : Steps s levels (opened.map Opened.tag) p q) :
    Breaks s levels opened p f := by
  cases h with
  | here hsteps' h => exact .here (hsteps.trans hsteps') h
  | tooDeep hsteps' hrest h hself => exact .tooDeep (hsteps.trans hsteps') hrest h hself
  | inside hsteps' hrest h hself content => exact .inside (hsteps.trans hsteps') hrest h hself content

/-! ### Reading follows the steps -/

lemma declarationLength_pos {rest : Text} {n : Nat} (h : declarationLength rest = .ok n) : 0 < n := by
  unfold declarationLength at h
  split at h
  · split at h
    · cases h
    · cases h
      omega
  · split at h
    · split at h
      · cases h
      · cases h
        omega
    · cases h
      omega

/-- The attributes of a tag do not begin behind the end of the text. -/
lemma OpensTag.drop_isEmpty {d : Delimiters} {strict : Bool} {rest name : Text} {a : Attributes}
    (h : OpensTag d strict rest name a) : (rest.drop name.length).isEmpty = false := by
  have hattributes := h.attributes_eq
  cases hrest : rest.drop name.length with
  | nil =>
    rw [hrest, attributes] at hattributes
    cases hattributes
  | cons c rest => rfl

variable {s : Setting} {levels place : Nat} {rest : Text}

/-! #### Tags -/

lemma readTag_literal {n : Nat} {names : List Text} (h : Literal s place rest n names) :
    readTag s levels place rest = .ok ⟨.raw (('<' :: rest).take n), place + n, names⟩ := by
  have hplace : ∀ n, place + 1 + n = place + (n + 1) := by omega
  cases h with
  | @element name a htag hname =>
    rw [readTag]
    simp only [htag.name_eq, hname, htag.drop_isEmpty, htag.attributes_eq, hplace, tagLength,
      Bool.false_and, Bool.not_false, Bool.false_eq_true, if_false, if_true]
    split
    · rw [Nat.add_right_comm _ 1, List.take_succ_cons]
    · rw [Nat.add_zero, List.take_succ_cons]
  | @unknown name a htag hname hunknown =>
    have hcontains : s.components.contains name = false := by simpa using hunknown
    rw [readTag]
    simp only [htag.name_eq, hname, hcontains, htag.drop_isEmpty, htag.attributes_eq, hplace,
      tagLength, Bool.and_false, Bool.not_false, Bool.not_true, Bool.false_eq_true, if_false, if_true,
      List.take_succ_cons]

/-- The tag of a component, once its attributes are read. -/
lemma readTag_opens {name : Text} {a : Attributes} (h : OpensComponent s rest name a) :
    readTag s levels place rest =
      if a.selfClosing then .ok ⟨.component name a.entries [] true place, place + tagLength name a, []⟩
      else match levels with
        | 0 => .error ⟨place, .nestedTooDeeply⟩
        | levels + 1 =>
          match (Progress.start (place + tagLength name a)
              (('<' :: rest).drop (tagLength name a))).read s levels (some ⟨name, place⟩) with
          | .error f => .error f
          | .ok inner =>
            .ok ⟨.component name a.entries inner.nodes false place, inner.place, inner.deferred⟩ := by
  have hplace : ∀ n, place + 1 + n = place + (n + 1) := by omega
  have hcontains : s.components.contains name = true := by simpa using h.known
  have hread := readTag.eq_def s levels place rest
  simp only [h.tag.name_eq, h.name_capital, hcontains, h.tag.drop_isEmpty, h.tag.attributes_eq, hplace,
    Bool.and_true, Bool.not_true, Bool.false_eq_true, if_false] at hread
  exact hread

lemma readTag_leaf {name : Text} {a : Attributes} (h : OpensComponent s rest name a)
    (hself : a.selfClosing = true) :
    readTag s levels place rest =
      .ok ⟨.component name a.entries [] true place, place + tagLength name a, []⟩ := by
  rw [readTag_opens h, if_pos hself]

lemma readTag_component {name : Text} {a : Attributes} {inner : ContentReading}
    (h : OpensComponent s rest name a) (hself : a.selfClosing = false)
    (hinner : (Progress.start (place + tagLength name a) (('<' :: rest).drop (tagLength name a))).read
      s levels (some ⟨name, place⟩) = .ok inner) :
    readTag s (levels + 1) place rest =
      .ok ⟨.component name a.entries inner.nodes false place, inner.place, inner.deferred⟩ := by
  rw [readTag_opens h, if_neg (by simp [hself])]
  simp only [hinner]

/-- A component whose content cannot be read cannot be read. -/
lemma readTag_component_error {name : Text} {a : Attributes} {f : Fault}
    (h : OpensComponent s rest name a) (hself : a.selfClosing = false)
    (hinner : (Progress.start (place + tagLength name a) (('<' :: rest).drop (tagLength name a))).read
      s levels (some ⟨name, place⟩) = .error f) :
    readTag s (levels + 1) place rest = .error f := by
  rw [readTag_opens h, if_neg (by simp [hself])]
  simp only [hinner]

lemma readTag_tooDeep {name : Text} {a : Attributes} (h : OpensComponent s rest name a)
    (hself : a.selfClosing = false) : readTag s 0 place rest = .error ⟨place, .nestedTooDeeply⟩ := by
  rw [readTag_opens h, if_neg (by simp [hself])]

/-! #### Content -/

variable {opened : Option Opened} {p q : Progress}

lemma read_pass {n : Nat} (h : Passes s (opened.map Opened.tag) p.rest n) :
    p.read s levels opened = (p.pass n).read s levels opened := by
  obtain ⟨place, held, nodes, deferred, rest⟩ := p
  simp only [Progress.read, Progress.pass] at h ⊢
  cases h with
  | span hkind hlength =>
    rw [readContent, if_pos hkind]
    simp only [hlength, List.drop_succ_cons]
  | character hspan hc =>
    rw [readContent, if_neg hspan, if_pos hc]
    simp [hold]
  | @closing rest name n hspan hclosing hopened hunknown =>
    rw [readContent, if_neg hspan, if_neg (by simp), if_pos (by simp)]
    simp only [List.drop_succ_cons, List.drop_zero, hclosing]
    rw [if_neg hopened, if_neg (by simpa using hunknown), Nat.add_comm 1 n, Nat.add_comm 2 n,
      List.drop_succ_cons, ← Nat.add_assoc, Nat.add_right_comm]
    rfl
  | @declaration rest n hspan hslash hletter hlength =>
    rw [readContent, if_neg hspan, if_neg (by simp), if_neg (by simpa using hslash),
      if_neg (by simp [hletter])]
    simp only [hlength]
    obtain ⟨k, rfl⟩ : ∃ k, n = k + 1 := ⟨n - 1, by have := declarationLength_pos hlength; omega⟩
    rfl

/-- At a tag, content is read on behind it. -/
lemma read_opens (hrest : p.rest = '<' :: rest) (hspan : NoSpan s.delimiters p.rest)
    (hletter : rest.head?.any Text.isLetter = true) :
    p.read s levels opened =
      match readTag s levels p.place rest with
      | .error f => .error f
      | .ok t => Progress.read s levels opened ⟨t.place, [], t.node :: flush p.held p.nodes,
          p.deferred ++ t.deferred, rest.drop (t.place - (p.place + 1))⟩ := by
  have hslash : ¬(rest.head? == some '/') = true := by
    intro hslash
    rw [eq_of_beq hslash] at hletter
    exact absurd hletter (by decide)
  rw [hrest] at hspan
  rw [Progress.read, hrest, readContent, if_neg hspan, if_neg (by simp), if_neg hslash, if_pos hletter]
  rfl

lemma read_tag {n : Nat} {node : Node} {names : List Text} (hrest : p.rest = '<' :: rest)
    (hspan : NoSpan s.delimiters p.rest) (hletter : rest.head?.any Text.isLetter = true) (hn : 0 < n)
    (h : readTag s levels p.place rest = .ok ⟨node, p.place + n, names⟩) :
    p.read s levels opened = (p.add n node names).read s levels opened := by
  obtain ⟨k, rfl⟩ : ∃ k, n = k + 1 := ⟨n - 1, by omega⟩
  have hbehind : p.place + (k + 1) - (p.place + 1) = k := by omega
  rw [read_opens hrest hspan hletter]
  simp only [h, hbehind, Progress.add, hrest, List.drop_succ_cons]

/-- A tag that cannot be read ends the reading of content. -/
lemma read_tag_error {f : Fault} (hrest : p.rest = '<' :: rest) (hspan : NoSpan s.delimiters p.rest)
    (hletter : rest.head?.any Text.isLetter = true)
    (h : readTag s levels p.place rest = .error f) : p.read s levels opened = .error f := by
  rw [read_opens hrest hspan hletter]
  simp only [h]

lemma Literal.pos {n : Nat} {names : List Text} (h : Literal s place rest n names) : 0 < n := by
  cases h with
  | element htag _ => exact Nat.add_pos_left (Nat.succ_pos _) _
  | unknown htag _ _ => exact Nat.succ_pos _

lemma Literal.opens {n : Nat} {names : List Text} (h : Literal s place rest n names) :
    NoSpan s.delimiters ('<' :: rest) ∧ rest.head?.any Text.isLetter = true := by
  cases h with
  | element htag _ => exact ⟨htag.no_span, htag.letter⟩
  | unknown htag _ _ => exact ⟨htag.no_span, htag.letter⟩

/-- Where content ends, reading it ends. -/
lemma read_ends {r : ContentReading} (h : Ends s (opened.map Opened.tag) p r) :
    p.read s levels opened = .ok r := by
  obtain ⟨place, held, nodes, deferred, text⟩ := p
  generalize hopened : opened.map Opened.tag = name at h
  cases h with
  | template hrest =>
    obtain rfl : opened = none := by simpa using hopened
    simp only at hrest
    subst hrest
    rw [Progress.read, readContent]
    rfl
  | component hclose =>
    simp only at hclose
    cases hclose with
    | intro hspan hclosing =>
      rw [Progress.read, readContent, if_neg hspan, if_neg (by simp), if_pos (by simp)]
      simp only [List.drop_succ_cons, List.drop_zero, hclosing]
      rw [if_pos hopened, Nat.add_assoc]
      rfl

/-- Reading on from the end of some steps is reading on from their beginning. -/
lemma Steps.read_eq {name : Option Text} (h : Steps s levels name p q)
    (hopened : opened.map Opened.tag = name) :
    p.read s levels opened = q.read s levels opened := by
  induction h generalizing opened with
  | refl => rfl
  | pass h _ ih =>
    subst hopened
    rw [read_pass h]
    exact ih rfl
  | literal hrest h _ ih =>
    rw [read_tag hrest (hrest ▸ h.opens.1) h.opens.2 h.pos (readTag_literal h), ← hrest]
    exact ih hopened
  | leaf hrest h hself _ ih =>
    rw [read_tag hrest (hrest ▸ h.tag.no_span) h.tag.letter (Nat.succ_pos _) (readTag_leaf h hself)]
    exact ih hopened
  | @component levels n _ p q inner rest name a hrest h hself content hclose _ ihc ih =>
    have hplace : p.place + tagLength name a ≤ inner.place := content.rest_eq.1
    have hpos : 0 < tagLength name a := Nat.succ_pos _
    -- reading the content ends with the closing tag
    have hinner := @ihc (some ⟨name, p.place⟩) rfl
    rw [hrest, read_ends (p := inner) (.component hclose)] at hinner
    have hplace' : p.place + (inner.place + n - p.place) = inner.place + n := by omega
    have htag : readTag s (levels + 1) p.place rest =
        .ok ⟨_, p.place + (inner.place + n - p.place), _⟩ :=
      hplace' ▸ readTag_component h hself hinner
    rw [read_tag hrest (hrest ▸ h.tag.no_span) h.tag.letter (by omega) htag]
    exact ih hopened

lemma Passes.length_drop_lt {name : Option Text} {text : Text} {n : Nat}
    (h : Passes s name text n) : (text.drop n).length < text.length := by
  have hpos : 0 < n := by
    cases h with
    | span _ _ => exact Nat.succ_pos _
    | character _ _ => exact Nat.one_pos
    | closing _ _ _ _ => omega
    | declaration _ _ _ hlength => exact declarationLength_pos hlength
  have hne : 0 < text.length := by
    cases h <;> exact Nat.succ_pos _
  rw [List.length_drop]
  omega

lemma Fails.read_eq {f : Fault} (h : Fails s opened p.place p.rest f) :
    p.read s levels opened = .error f := by
  generalize hrest : p.rest = text at h
  cases h with
  | unclosed hopened =>
    subst hopened
    rw [Progress.read, hrest, readContent]
  | span hkind hlength =>
    rw [Progress.read, hrest, readContent, if_pos hkind]
    simp only [hlength]
  | emptySpan hkind hlength =>
    rw [Progress.read, hrest, readContent, if_pos hkind]
    simp only [hlength]
  | closing hspan hclosing =>
    rw [Progress.read, hrest, readContent, if_neg hspan, if_neg (by simp), if_pos (by simp)]
    simp only [List.drop_succ_cons, List.drop_zero, hclosing]
  | @stray rest name n hspan hclosing hopened hknown =>
    have hcontains : s.components.contains name = true := by simpa using hknown
    rw [Progress.read, hrest, readContent, if_neg hspan, if_neg (by simp), if_pos (by simp)]
    simp only [List.drop_succ_cons, List.drop_zero, hclosing]
    rw [if_neg hopened, if_pos hcontains]
    cases opened <;> rfl
  | declaration hspan hslash hletter hlength =>
    rw [Progress.read, hrest, readContent, if_neg hspan, if_neg (by simp), if_neg (by simpa using hslash),
      if_neg (by simp [hletter])]
    simp only [hlength]
  | tagName hspan hletter hname hbehind =>
    refine read_tag_error hrest (hrest ▸ hspan) hletter ?_
    rw [readTag]
    simp only [hname, hbehind, List.isEmpty_nil, if_true]
  | attributes hspan hletter hname hbehind hattributes =>
    refine read_tag_error hrest (hrest ▸ hspan) hletter ?_
    rw [readTag]
    simp only [hname, List.isEmpty_iff, hbehind, if_false, hattributes]

lemma Breaks.read_eq {f : Fault} (h : Breaks s levels opened p f) :
    p.read s levels opened = .error f := by
  induction h with
  | here hsteps h =>
    rw [hsteps.read_eq rfl]
    exact h.read_eq
  | tooDeep hsteps hrest h hself =>
    rw [hsteps.read_eq rfl]
    exact read_tag_error hrest (hrest ▸ h.tag.no_span) h.tag.letter (readTag_tooDeep h hself)
  | inside hsteps hrest h hself _ ih =>
    rw [hsteps.read_eq rfl]
    rw [hrest] at ih
    exact read_tag_error hrest (hrest ▸ h.tag.no_span) h.tag.letter
      (readTag_component_error h hself ih)

/-! ### Steps lead to the end or to a fault -/

lemma tag_cases (s : Setting) (opened : Option Opened) (place : Nat) {rest : Text}
    (hspan : NoSpan s.delimiters ('<' :: rest)) (hletter : rest.head?.any Text.isLetter = true) :
    (∃ n names, Literal s place rest n names) ∨ (∃ name a, OpensComponent s rest name a) ∨
      ∃ f, Fails s opened place ('<' :: rest) f := by
  generalize hname : rest.takeWhile (!endsTagName ·) = name
  by_cases hbehind : rest.drop name.length = []
  · exact .inr (.inr ⟨_, .tagName hspan hletter hname hbehind⟩)
  cases hattributes : attributes s.delimiters name
      (isComponentName name && s.components.contains name) 0 [] (rest.drop name.length) with
  | error f => exact .inr (.inr ⟨_, .attributes hspan hletter hname hbehind hattributes⟩)
  | ok a =>
    -- the attributes were read strictly if the name is known and leniently if it is not
    by_cases hcapital : isComponentName name = true
    · by_cases hknown : name ∈ s.components
      · have hstrict : (isComponentName name && s.components.contains name) = true := by
          simpa [hcapital] using hknown
        rw [hstrict] at hattributes
        exact .inr (.inl ⟨name, a, ⟨hspan, hletter, hname, hattributes⟩, hcapital, hknown⟩)
      · have hlenient : (isComponentName name && s.components.contains name) = false := by
          simpa [hcapital] using hknown
        rw [hlenient] at hattributes
        exact .inl ⟨_, _, .unknown ⟨hspan, hletter, hname, hattributes⟩ hcapital hknown⟩
    · have hlenient : (isComponentName name && s.components.contains name) = false := by
        simp [hcapital]
      rw [hlenient] at hattributes
      exact .inl ⟨_, _, .element ⟨hspan, hletter, hname, hattributes⟩ (by simpa using hcapital)⟩

/-- What comes next in content: its end, a piece of markup that is passed, a tag, or a fault. -/
lemma next_cases (s : Setting) (opened : Option Opened) (p : Progress) :
    (∃ r, Ends s (opened.map Opened.tag) p r) ∨ (∃ n, Passes s (opened.map Opened.tag) p.rest n) ∨
      (∃ rest, p.rest = '<' :: rest ∧
        ((∃ n names, Literal s p.place rest n names) ∨ ∃ name a, OpensComponent s rest name a)) ∨
      ∃ f, Fails s opened p.place p.rest f := by
  cases hrest : p.rest with
  | nil =>
    cases opened with
    | none => exact .inl ⟨_, .template hrest⟩
    | some o => exact .inr (.inr (.inr ⟨_, .unclosed rfl⟩))
  | cons c rest =>
    by_cases hspan : NoSpan s.delimiters (c :: rest)
    · by_cases hc : c = '<'
      · subst hc
        by_cases hslash : rest.head? = some '/'
        · obtain ⟨rest, rfl⟩ := List.head?_eq_some_iff.mp hslash
          cases hclosing : closingTag rest with
          | error f => exact .inr (.inr (.inr ⟨_, .closing hspan hclosing⟩))
          | ok tag =>
            obtain ⟨name, n⟩ := tag
            by_cases hopened : opened.map Opened.tag = some name
            · have hclose : Closes s.delimiters name p.rest (2 + n) := by
                rw [hrest]
                exact .intro hspan hclosing
              rw [hopened]
              exact .inl ⟨_, .component hclose⟩
            · by_cases hknown : name ∈ s.components
              · exact .inr (.inr (.inr ⟨_, .stray hspan hclosing hopened hknown⟩))
              · exact .inr (.inl ⟨_, .closing hspan hclosing hopened hknown⟩)
        · by_cases hletter : rest.head?.any Text.isLetter = true
          · rcases tag_cases s opened p.place hspan hletter with hliteral | hcomponent | hfails
            · exact .inr (.inr (.inl ⟨rest, rfl, .inl hliteral⟩))
            · exact .inr (.inr (.inl ⟨rest, rfl, .inr hcomponent⟩))
            · exact .inr (.inr (.inr hfails))
          · have hletter' := Bool.eq_false_iff.mpr hletter
            cases hlength : declarationLength rest with
            | error f => exact .inr (.inr (.inr ⟨_, .declaration hspan hslash hletter' hlength⟩))
            | ok n => exact .inr (.inl ⟨n, .declaration hspan hslash hletter' hlength⟩)
      · exact .inr (.inl ⟨1, .character hspan hc⟩)
    · have hkind : (Span.kindAt? s.delimiters (c :: rest)).isSome = true := not_not.mp hspan
      cases hlength : Span.length s.delimiters false (c :: rest) with
      | error f => exact .inr (.inr (.inr ⟨_, .span hkind hlength⟩))
      | ok n =>
        cases n with
        | zero => exact .inr (.inr (.inr ⟨_, .emptySpan hkind hlength⟩))
        | succ n => exact .inr (.inl ⟨_, .span hkind hlength⟩)

/-- From everywhere steps lead to the end of the content or to a fault. -/
lemma steps_or_breaks (s : Setting) (levels : Nat) (opened : Option Opened) (p : Progress) :
    (∃ q r, Steps s levels (opened.map Opened.tag) p q ∧ Ends s (opened.map Opened.tag) q r) ∨
      ∃ f, Breaks s levels opened p f := by
  -- what is left gets shorter in the content of a component and behind it
  induction hlength : p.rest.length using Nat.strongRecOn generalizing p levels opened with
  | ind length ih =>
  subst hlength
  have onward : ∀ {q : Progress}, Steps s levels (opened.map Opened.tag) p q →
      q.rest.length < p.rest.length →
      (∃ q r, Steps s levels (opened.map Opened.tag) p q ∧ Ends s (opened.map Opened.tag) q r) ∨
        ∃ f, Breaks s levels opened p f := by
    intro q hsteps hlt
    rcases ih _ hlt levels opened q rfl with ⟨q', r, hsteps', hends⟩ | ⟨f, hbreaks⟩
    · exact .inl ⟨q', r, hsteps.trans hsteps', hends⟩
    · exact .inr ⟨f, hbreaks.after hsteps⟩
  have shorter : ∀ {n : Nat} {rest : Text}, 0 < n → p.rest = '<' :: rest →
      (p.rest.drop n).length < p.rest.length := by
    intro n rest hn hrest
    rw [List.length_drop, hrest, List.length_cons]
    omega
  rcases next_cases s opened p with ⟨r, hends⟩ | ⟨n, hpass⟩ |
    ⟨rest, hrest, ⟨n, names, hliteral⟩ | ⟨name, a, hcomponent⟩⟩ | ⟨f, hfails⟩
  · exact .inl ⟨p, r, .refl, hends⟩
  · exact onward (.pass hpass .refl) hpass.length_drop_lt
  · exact onward (.literal hrest hliteral .refl) (shorter hliteral.pos hrest)
  · cases hself : a.selfClosing with
    | true => exact onward (.leaf hrest hcomponent hself .refl) (shorter (Nat.succ_pos _) hrest)
    | false =>
      cases levels with
      | zero => exact .inr ⟨_, .tooDeep .refl hrest hcomponent hself⟩
      | succ levels =>
        -- the content of the component is read first, then what follows its closing tag
        rcases ih _ (shorter (Nat.succ_pos _) hrest) levels (some ⟨name, p.place⟩)
            (.start (p.place + tagLength name a) (p.rest.drop (tagLength name a))) rfl with
          ⟨q, r, hcontent, hclose⟩ | ⟨f, hbreaks⟩
        · cases hclose with
          | component hclose =>
            have hplace : p.place + tagLength name a ≤ q.place := hcontent.rest_eq.1
            have hpos : 0 < tagLength name a := Nat.succ_pos _
            exact onward (.component hrest hcomponent hself hcontent hclose .refl)
              (shorter (by omega) hrest)
        · exact .inr ⟨f, .inside .refl hrest hcomponent hself hbreaks⟩
  · exact .inr ⟨f, .here .refl hfails⟩

/-- Content is read successfully exactly when steps lead to its end. -/
theorem read_eq_ok_iff {r : ContentReading} :
    p.read s levels opened = .ok r ↔
      ∃ q, Steps s levels (opened.map Opened.tag) p q ∧ Ends s (opened.map Opened.tag) q r := by
  constructor
  · intro h
    rcases steps_or_breaks s levels opened p with ⟨q, r', hsteps, hends⟩ | ⟨f, hbreaks⟩
    · rw [hsteps.read_eq rfl, read_ends hends] at h
      cases h
      exact ⟨q, hsteps, hends⟩
    · rw [hbreaks.read_eq] at h
      cases h
  · rintro ⟨q, hsteps, hends⟩
    rw [hsteps.read_eq rfl]
    exact read_ends hends

/-- Reading content fails exactly when it leads to a fault. -/
theorem read_eq_error_iff {f : Fault} :
    p.read s levels opened = .error f ↔ Breaks s levels opened p f := by
  constructor
  · intro h
    rcases steps_or_breaks s levels opened p with ⟨q, r, hsteps, hends⟩ | ⟨f', hbreaks⟩
    · rw [hsteps.read_eq rfl, read_ends hends] at h
      cases h
    · rw [hbreaks.read_eq] at h
      cases h
      exact hbreaks
  · exact Breaks.read_eq

/-- A template is parsed successfully exactly when steps lead to its end. -/
theorem parseWithin_eq_ok_iff {text : Text} {components : List Text} {d : Delimiters}
    {name : Option Text} {parsed : Parsed} :
    parseWithin levels text components d name = .ok parsed ↔
      ∃ q, Steps (settingFor text components d) levels none (.start 0 text) q ∧ q.rest = [] ∧
        parsed = ⟨q.content, q.deferred.eraseDups⟩ := by
  have hread := @read_eq_ok_iff (settingFor text components d) levels none (.start 0 text)
  rw [Progress.read, Option.map_none] at hread
  simp only [parseWithin]
  constructor
  · intro h
    split at h
    · cases h
    · rename_i r hr
      obtain ⟨q, hsteps, hends⟩ := hread.mp hr
      cases hends with
      | template hrest => exact ⟨q, hsteps, hrest, (Except.ok.inj h).symm⟩
  · rintro ⟨q, hsteps, hrest, rfl⟩
    have hr := hread.mpr ⟨q, hsteps, .template hrest⟩
    simp only [Progress.start] at hr
    rw [hr]

/-- Parsing a template fails exactly when reading it leads to a fault, at which the error points. -/
theorem parseWithin_eq_error_iff {text : Text} {components : List Text} {d : Delimiters}
    {name : Option Text} {e : ParseError} :
    parseWithin levels text components d name = .error e ↔
      ∃ f, Breaks (settingFor text components d) levels none (.start 0 text) f ∧
        e = .ofFault text name f := by
  have hread := @read_eq_error_iff (settingFor text components d) levels none (.start 0 text)
  rw [Progress.read] at hread
  simp only [parseWithin]
  constructor
  · intro h
    split at h
    · rename_i f hf
      exact ⟨f, hread.mp hf, (Except.error.inj h).symm⟩
    · cases h
  · rintro ⟨f, hbreaks, rfl⟩
    have hf := hread.mpr hbreaks
    simp only [Progress.start] at hf
    rw [hf]

end ComponentTags.Markup
