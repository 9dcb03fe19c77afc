/-
# Parsing ends

Content is read in one recursion: a tag is read inside content, and content inside the tag of a component.
This file reads a template in one loop instead (`Reader.round`), which keeps the components that are open, and
the content in front of each of them, on a stack.  A round goes on behind what it has read, however long that
is: nothing in it looks after its own end.

As long as no delimiter is empty, each round leads to a later place of the template, so parsing ends within one
round more than the template has characters, with what `parseWithin` says (`parse_ends`).  The components on the
stack are nested: each has begun behind the opening tag of the next outer one.
-/
import ComponentTags.Proofs.Markup.Loops

namespace ComponentTags.Markup

open Loop (Proceeds Computes Later Leads)

/-! ### Open components -/

/-- A component that is open while its content is read. -/
structure Frame where
  /-- The component. -/
  opened : Opened
  /-- The place where its content begins. -/
  begins : Nat
  /-- Its attributes. -/
  entries : Table Text Text
  /-- The nodes in front of it, in reverse order. -/
  nodes : List Node
  /-- The names that were deferred in front of it. -/
  deferred : List Text

/-- The progress behind a component, in front of what is still to be read. -/
def Frame.behind (fr : Frame) (content : ContentReading) (rest : Text) : Progress :=
  ⟨content.place, [],
    .component fr.opened.tag fr.entries content.nodes false fr.opened.place :: fr.nodes,
    fr.deferred ++ content.deferred, rest⟩

/-- How far a template has been read. -/
structure Reader where
  /-- How many more components may be opened. -/
  levels : Nat
  /-- The components that are open, the innermost one first. -/
  frames : List Frame
  /-- How far the content of the innermost one has been read. -/
  progress : Progress

/-- What is passed has at least one character. -/
lemma Passes.pos {s : Setting} {opened : Option Text} {text : Text} {n : Nat}
    (h : Passes s opened text n) : text ≠ [] ∧ 0 < n := by
  have hlt := h.length_drop_lt
  rw [List.length_drop] at hlt
  exact ⟨List.length_pos_iff.mp (by omega), by omega⟩

namespace Reader

/-- The beginning of a template. -/
def start (levels : Nat) (text : Text) : Reader := ⟨levels, [], .start 0 text⟩

/-- The place that was reached. -/
def place (x : Reader) : Nat := x.progress.place

/-- What is still to be read. -/
def rest (x : Reader) : Text := x.progress.rest

/-- The innermost component that is open. -/
def opened? (x : Reader) : Option Opened := x.frames.head?.map Frame.opened

/-- The next `n` characters are held back. -/
def pass (x : Reader) (n : Nat) : Reader := { x with progress := x.progress.pass n }

/-- The next `n` characters become a node and names are deferred. -/
def add (x : Reader) (n : Nat) (node : Node) (names : List Text) : Reader :=
  { x with progress := x.progress.add n node names }

/-- The innermost component is closed by the next `n` characters. -/
def close (x : Reader) (fr : Frame) (frames : List Frame) (n : Nat) : Reader :=
  ⟨x.levels + 1, frames,
    fr.behind ⟨x.progress.content, x.place + n, x.progress.deferred⟩ (x.rest.drop n)⟩

/-- The next `n` characters open a component, of which `levels` more may be opened. -/
def openComponent (x : Reader) (levels n : Nat) (name : Text) (entries : Table Text Text) : Reader :=
  ⟨levels, ⟨⟨name, x.place⟩, x.place + n, entries, flush x.progress.held x.progress.nodes,
    x.progress.deferred⟩ :: x.frames, .start (x.place + n) (x.rest.drop n)⟩

/-! ### Rounds -/

/-- A round at a closing tag, given what follows its `</`. -/
def closingRound (s : Setting) (x : Reader) (rest : Text) : Reader ⊕ Except Fault ContentReading :=
  match closingTag rest with
  | .error f => .inr (.error (f.shift x.place))
  | .ok (name, n) =>
    match x.frames with
    | [] =>
      if s.components.contains name then .inr (.error ⟨x.place, .unexpectedClosing name⟩)
      else .inl (x.pass (2 + n))
    | fr :: frames =>
      if fr.opened.tag = name then .inl (x.close fr frames (2 + n))
      else if s.components.contains name then
        .inr (.error ⟨x.place, .mismatchedClosing name fr.opened.tag⟩)
      else .inl (x.pass (2 + n))

/-- A round at an opening tag, given what follows its `<`. -/
def tagRound (s : Setting) (x : Reader) (rest : Text) : Reader ⊕ Except Fault ContentReading :=
  let name := rest.takeWhile (!endsTagName ·)
  let behindName := rest.drop name.length
  let known := isComponentName name && s.components.contains name
  if behindName.isEmpty then .inr (.error ⟨x.place, .endInTagName⟩)
  else
    match attributes s.delimiters name known 0 [] behindName with
    | .error f => .inr (.error (f.shift (x.place + 1 + name.length)))
    | .ok a =>
      if !isComponentName name then
        let n := tagLength name a + if isRawTextName name && !a.selfClosing then
          rawTextLength s name (x.place + tagLength name a) (rest.drop (name.length + a.count)) else 0
        .inl (x.add n (.raw (x.rest.take n)) [])
      else if !known then
        .inl (x.add (tagLength name a) (.raw (x.rest.take (tagLength name a)))
          (if isElementName name then [] else [name]))
      else if a.selfClosing then
        .inl (x.add (tagLength name a) (.component name a.entries [] true x.place) [])
      else
        match x.levels with
        | 0 => .inr (.error ⟨x.place, .nestedTooDeeply⟩)
        | levels + 1 => .inl (x.openComponent levels (tagLength name a) name a.entries)

/-- A round in a template. -/
def round (s : Setting) (x : Reader) : Reader ⊕ Except Fault ContentReading :=
  match x.rest with
  | [] =>
    match x.opened? with
    | none => .inr (.ok ⟨x.progress.content, x.place, x.progress.deferred⟩)
    | some o => .inr (.error ⟨o.place, .unclosed o.tag⟩)
  | c :: rest =>
    if (Span.kindAt? s.delimiters (c :: rest)).isSome then
      match Span.length s.delimiters false (c :: rest) with
      | .error f => .inr (.error (f.shift x.place))
      | .ok n => .inl (x.pass n)
    else if c ≠ '<' then .inl (x.pass 1)
    else if rest.head? == some '/' then x.closingRound s (rest.drop 1)
    else if rest.head?.any Text.isLetter then x.tagRound s rest
    else
      match declarationLength rest with
      | .error f => .inr (.error (f.shift x.place))
      | .ok n => .inl (x.pass n)

/-! ### What the rounds keep -/

/-- Reads the rest of a template: the content of the innermost component, and then what follows that in the
next outer one. -/
def finish (s : Setting) : List Frame → Nat → Progress → Except Fault ContentReading
  | [], levels, p => p.read s levels none
  | fr :: frames, levels, p =>
    match p.read s levels (some fr.opened) with
    | .error f => .error f
    | .ok content =>
      finish s frames (levels + 1) (fr.behind content (p.rest.drop (content.place - p.place)))

/-- What reading the rest of a template comes to. -/
def value (s : Setting) (x : Reader) : Except Fault ContentReading :=
  finish s x.frames x.levels x.progress

variable {s : Setting} {x y : Reader} {n : Nat} {f : Fault}

/-- Where the innermost content cannot be read, nothing can. -/
lemma value_of_error (h : x.progress.read s x.levels x.opened? = .error f) : x.value s = .error f := by
  obtain ⟨levels, frames, p⟩ := x
  cases frames with
  | nil => exact h
  | cons fr frames =>
    have hread : p.read s levels (some fr.opened) = .error f := h
    simp only [value, finish, hread]

/-- It is the same to read on from a later place that content leads to. -/
lemma value_of_read {q : Progress} (h : x.progress.read s x.levels x.opened? = q.read s x.levels x.opened?)
    (hplace : x.place ≤ q.place) (hrest : q.rest = x.rest.drop (q.place - x.place)) :
    x.value s = value s { x with progress := q } := by
  obtain ⟨levels, frames, p⟩ := x
  simp only [place, rest] at hplace hrest
  cases frames with
  | nil => exact h
  | cons fr frames =>
    have hread : p.read s levels (some fr.opened) = q.read s levels (some fr.opened) := h
    simp only [value, finish, hread]
    cases hq : q.read s levels (some fr.opened) with
    | error f => rfl
    | ok content =>
      have hlt := lt_place_of_read hq
      simp only
      rw [hrest, List.drop_drop, show q.place - p.place + (content.place - q.place) =
        content.place - p.place by omega]

/-! ### Rounds follow the steps -/

/-- A closing tag, read by the name of the innermost component. -/
lemma closingRound_eq {rest name : Text} (h : closingTag rest = .ok (name, n)) :
    x.closingRound s rest =
      match x.frames with
      | [] =>
        if name ∈ s.components then .inr (.error ⟨x.place, .unexpectedClosing name⟩)
        else .inl (x.pass (2 + n))
      | fr :: frames =>
        if fr.opened.tag = name then .inl (x.close fr frames (2 + n))
        else if name ∈ s.components then .inr (.error ⟨x.place, .mismatchedClosing name fr.opened.tag⟩)
        else .inl (x.pass (2 + n)) := by
  simp only [closingRound, h, List.contains_iff_mem]

lemma round_of_closing {rest : Text} (hrest : x.rest = '<' :: '/' :: rest)
    (hspan : NoSpan s.delimiters x.rest) : x.round s = x.closingRound s rest := by
  rw [hrest] at hspan
  simp only [round, hrest]
  rw [if_neg hspan, if_neg (by simp), if_pos (by simp), List.drop_one, List.tail_cons]

lemma round_of_tag {rest : Text} (hrest : x.rest = '<' :: rest) (hspan : NoSpan s.delimiters x.rest)
    (hletter : rest.head?.any Text.isLetter = true) : x.round s = x.tagRound s rest := by
  have hslash : ¬(rest.head? == some '/') = true := by
    intro hslash
    rw [eq_of_beq hslash] at hletter
    exact absurd hletter (by decide)
  rw [hrest] at hspan
  simp only [round, hrest]
  rw [if_neg hspan, if_neg (by simp), if_neg hslash, if_pos hletter]

lemma round_of_declaration {rest : Text} (hrest : x.rest = '<' :: rest)
    (hspan : NoSpan s.delimiters x.rest) (hslash : rest.head? ≠ some '/')
    (hletter : rest.head?.any Text.isLetter = false) :
    x.round s =
      match declarationLength rest with
      | .error f => .inr (.error (f.shift x.place))
      | .ok n => .inl (x.pass n) := by
  rw [hrest] at hspan
  simp only [round, hrest]
  rw [if_neg hspan, if_neg (by simp), if_neg (by simpa using hslash), if_neg (by simp [hletter])]

lemma round_of_span {c : Char} {rest : Text} (hrest : x.rest = c :: rest)
    (hkind : (Span.kindAt? s.delimiters (c :: rest)).isSome = true) :
    x.round s =
      match Span.length s.delimiters false (c :: rest) with
      | .error f => .inr (.error (f.shift x.place))
      | .ok n => .inl (x.pass n) := by
  simp only [round, hrest, if_pos hkind]

lemma round_of_passes (h : Passes s (x.opened?.map Opened.tag) x.rest n) :
    x.round s = .inl (x.pass n) := by
  generalize hrest : x.rest = text at h
  cases h with
  | span hkind hlength => rw [round_of_span hrest hkind, hlength]
  | character hspan hc => simp only [round, hrest, if_neg hspan, if_pos hc]
  | @closing rest name n hspan hclosing hopened hunknown =>
    rw [round_of_closing hrest (hrest ▸ hspan), closingRound_eq hclosing, if_neg hunknown]
    split
    · rfl
    · rename_i fr frames hframes
      rw [opened?, hframes] at hopened
      rw [if_neg fun heq => hopened (congrArg some heq), if_neg hunknown]
  | declaration hspan hslash hletter hlength =>
    rw [round_of_declaration hrest (hrest ▸ hspan) hslash hletter, hlength]

lemma round_of_literal {rest : Text} {names : List Text} (hrest : x.rest = '<' :: rest)
    (h : Literal s x.place rest n names) :
    x.round s = .inl (x.add n (.raw (x.rest.take n)) names) := by
  rw [round_of_tag hrest (hrest ▸ h.opens.1) h.opens.2]
  cases h with
  | @element name a htag hname =>
    simp only [tagRound, htag.name_eq, hname, htag.drop_isEmpty, htag.attributes_eq, Bool.false_and,
      Bool.not_false, Bool.false_eq_true, if_false, if_true]
  | @unknown name a htag hname hunknown =>
    have hcontains : s.components.contains name = false := by simpa using hunknown
    simp only [tagRound, htag.name_eq, hname, hcontains, htag.drop_isEmpty, htag.attributes_eq,
      Bool.and_false, Bool.not_false, Bool.not_true, Bool.false_eq_true, if_false, if_true]

lemma round_of_opens {rest name : Text} {a : Attributes} (hrest : x.rest = '<' :: rest)
    (h : OpensComponent s rest name a) :
    x.round s =
      if a.selfClosing then
        .inl (x.add (tagLength name a) (.component name a.entries [] true x.place) [])
      else
        match x.levels with
        | 0 => .inr (.error ⟨x.place, .nestedTooDeeply⟩)
        | levels + 1 => .inl (x.openComponent levels (tagLength name a) name a.entries) := by
  have hcontains : s.components.contains name = true := by simpa using h.known
  rw [round_of_tag hrest (hrest ▸ h.tag.no_span) h.tag.letter]
  simp only [tagRound, h.tag.name_eq, h.name_capital, hcontains, h.tag.drop_isEmpty,
    h.tag.attributes_eq, Bool.and_true, Bool.not_true, Bool.false_eq_true, if_false]

/-- Where content cannot be read, the loop ends with the same fault. -/
lemma round_of_fails (hd : s.delimiters.NonEmpty) (h : Fails s x.opened? x.place x.rest f) :
    x.round s = .inr (.error f) ∧ f.cause ≠ .emptySpan := by
  generalize hrest : x.rest = text at h
  cases h with
  | unclosed hopened => simp [round, hrest, hopened]
  | @span c rest f hkind hlength =>
    refine ⟨by rw [round_of_span hrest hkind, hlength], ?_⟩
    exact (Span.length_result hd false (c :: rest)).1 f hlength
  | emptySpan hkind hlength =>
    exact absurd ((Span.length_result hd false _).2 0 hlength) (Nat.lt_irrefl 0)
  | @closing rest f hspan hclosing =>
    refine ⟨by rw [round_of_closing hrest (hrest ▸ hspan), closingRound, hclosing], ?_⟩
    unfold closingTag at hclosing
    split at hclosing
    · cases hclosing
      nofun
    · cases hclosing
  | @stray rest name n hspan hclosing hopened hknown =>
    rw [round_of_closing hrest (hrest ▸ hspan), closingRound_eq hclosing, if_pos hknown, opened?]
    split
    · rename_i hframes
      rw [hframes]
      exact ⟨rfl, nofun⟩
    · rename_i fr frames hframes
      rw [opened?, hframes] at hopened
      rw [if_neg fun heq => hopened (congrArg some heq), if_pos hknown, hframes]
      exact ⟨rfl, nofun⟩
  | @declaration rest f hspan hslash hletter hlength =>
    refine ⟨by rw [round_of_declaration hrest (hrest ▸ hspan) hslash hletter, hlength], ?_⟩
    unfold declarationLength at hlength
    split at hlength
    · split at hlength
      · cases hlength
        nofun
      · cases hlength
    · split at hlength
      · split at hlength
        · cases hlength
          nofun
        · cases hlength
      · cases hlength
  | @tagName rest name hspan hletter hname hbehind =>
    rw [round_of_tag hrest (hrest ▸ hspan) hletter]
    simp [tagRound, hname, hbehind]
  | @attributes rest name f hspan hletter hname hbehind hattributes =>
    have hempty : (rest.drop name.length).isEmpty = false := by simpa using hbehind
    refine ⟨?_, attributes_unstuck hd name _ 0 [] _ f hattributes⟩
    rw [round_of_tag hrest (hrest ▸ hspan) hletter]
    simp only [tagRound, hname, hempty, hattributes, Bool.false_eq_true, if_false]

/-- Where the content of a template ends, the loop ends with it; where the content of a component ends, the
component is closed. -/
lemma round_of_ends {r : ContentReading} (h : Ends s (x.opened?.map Opened.tag) x.progress r) :
    (x.frames = [] ∧ x.round s = .inr (.ok r)) ∨
      ∃ fr frames n, x.frames = fr :: frames ∧ x.rest ≠ [] ∧ 0 < n ∧
        x.round s = .inl (x.close fr frames n) ∧
          r = ⟨x.progress.content, x.place + n, x.progress.deferred⟩ := by
  obtain ⟨levels, frames, p⟩ := x
  cases frames with
  | nil =>
    cases h with
    | template hrest =>
      have hrest' : (⟨levels, [], p⟩ : Reader).rest = [] := hrest
      exact .inl ⟨rfl, by simp only [round, hrest']; rfl⟩
  | cons fr frames =>
    generalize htag : (opened? ⟨levels, fr :: frames, p⟩).map Opened.tag = tag at h
    cases h with
    | template hrest => cases htag
    | @component _ name n hclose =>
      have hpos := hclose.isClosingTag.2.1
      generalize hrest : p.rest = text at hclose
      cases hclose with
      | @intro rest n hspan hclosing =>
        have hrest' : (⟨levels, fr :: frames, p⟩ : Reader).rest = '<' :: '/' :: rest := hrest
        refine .inr ⟨fr, frames, 2 + n, rfl, by simp [hrest'], hpos, ?_, rfl⟩
        rw [round_of_closing hrest' (hrest' ▸ hspan), closingRound_eq hclosing]
        exact if_pos (Option.some.inj htag)

/-! ### Each round moves on -/

/-- A round that goes on does so in the same content, in that of a component that it opens, or behind the
component that it closes. -/
inductive Onward (x y : Reader) : Prop
  | same (h : y.frames = x.frames)
  | opens {fr : Frame} (h : y.frames = fr :: x.frames) (hopened : fr.opened.place = x.place)
      (hbegins : fr.begins = y.place) (hle : y.place ≤ x.place + x.rest.length)
  | closes {fr : Frame} (h : x.frames = fr :: y.frames)

lemma later_of_eq (hne : x.rest ≠ []) (hn : 0 < n) (hplace : y.place = x.place + n)
    (hrest : y.rest = x.rest.drop n) : Later place rest x y :=
  ⟨hne, by omega, by rw [hrest, hplace, Nat.add_sub_cancel_left]⟩

lemma value_of_passes (h : Passes s (x.opened?.map Opened.tag) x.rest n) :
    x.value s = (x.pass n).value s :=
  value_of_read (q := x.progress.pass n) (read_pass h) (Nat.le_add_right _ _)
    (by rw [Progress.pass, place, Nat.add_sub_cancel_left, rest])

/-- It is the same to read on behind a tag. -/
lemma value_of_tag {rest : Text} {node : Node} {names : List Text} (hrest : x.rest = '<' :: rest)
    (hspan : NoSpan s.delimiters ('<' :: rest)) (hletter : rest.head?.any Text.isLetter = true)
    (hn : 0 < n) (h : readTag s x.levels x.place rest = .ok ⟨node, x.place + n, names⟩) :
    x.value s = (x.add n node names).value s := by
  have hprogress : x.progress.rest = '<' :: rest := hrest
  refine value_of_read (q := x.progress.add n node names)
    (read_tag hprogress (hprogress ▸ hspan) hletter hn h) (Nat.le_add_right _ _) ?_
  rw [Progress.add, place, Nat.add_sub_cancel_left, Reader.rest]

lemma value_close {fr : Frame} {frames : List Frame} (hframes : x.frames = fr :: frames)
    (hread : x.progress.read s x.levels (some fr.opened) =
      .ok ⟨x.progress.content, x.place + n, x.progress.deferred⟩) :
    x.value s = (x.close fr frames n).value s := by
  rw [value, hframes, finish, hread]
  simp only [place, Nat.add_sub_cancel_left]
  rfl

lemma value_openComponent {rest name : Text} {a : Attributes} {levels : Nat} (hrest : x.rest = '<' :: rest)
    (h : OpensComponent s rest name a) (hself : a.selfClosing = false) (hlevels : x.levels = levels + 1) :
    x.value s = (x.openComponent levels (tagLength name a) name a.entries).value s := by
  cases hinner : (Progress.start (x.place + tagLength name a) (x.rest.drop (tagLength name a))).read
      s levels (some ⟨name, x.place⟩) with
  | error f =>
    have hy : (x.openComponent levels (tagLength name a) name a.entries).value s = .error f := by
      simp only [openComponent, value, finish, hinner]
    rw [hrest] at hinner
    rw [hy]
    have hprogress : x.progress.rest = '<' :: rest := hrest
    refine value_of_error ?_
    rw [hlevels]
    exact read_tag_error hprogress (hprogress ▸ h.tag.no_span) h.tag.letter
      (readTag_component_error h hself hinner)
  | ok content =>
    have hlt : x.place + tagLength name a < content.place := lt_place_of_read hinner
    have hplace : x.place + (content.place - x.place) = content.place := by omega
    have hdrop : (x.rest.drop (tagLength name a)).drop (content.place - (x.place + tagLength name a)) =
        x.rest.drop (content.place - x.place) := by
      rw [List.drop_drop]
      congr 1
      omega
    have hy : (x.openComponent levels (tagLength name a) name a.entries).value s =
        finish s x.frames (levels + 1) (x.progress.add (content.place - x.place)
          (.component name a.entries content.nodes false x.place) content.deferred) := by
      simp only [openComponent, value, finish, hinner]
      simp only [Progress.start, hdrop]
      rw [Frame.behind, Progress.add, ← place, hplace]
      rfl
    rw [hrest] at hinner
    rw [hy, ← hlevels]
    refine value_of_tag hrest h.tag.no_span h.tag.letter (by omega) ?_
    rw [hlevels, hplace]
    exact readTag_component h hself hinner

/-- What a round comes to: the loop ends with what reading the rest comes to, or it goes on at a later place, and
reading the rest comes to the same there. -/
lemma round_cases (hd : s.delimiters.NonEmpty) (x : Reader) :
    (∃ r, x.round s = .inr r ∧ x.value s = r ∧ Unstuck r) ∨
      ∃ y, x.round s = .inl y ∧ Later place rest x y ∧ Onward x y ∧ x.value s = y.value s := by
  rcases next_cases s x.opened? x.progress with ⟨r, hends⟩ | ⟨n, hpass⟩ |
    ⟨rest, hrest, hstep⟩ | ⟨f, hfails⟩
  · have hread : x.progress.read s x.levels x.opened? = .ok r := read_ends hends
    rcases round_of_ends hends with ⟨hframes, hround⟩ | ⟨fr, frames, n, hframes, hne, hn, hround, rfl⟩
    · rw [opened?, hframes] at hread
      refine .inl ⟨_, hround, ?_, unstuck_ok r⟩
      rw [value, hframes]
      exact hread
    · rw [opened?, hframes] at hread
      exact .inr ⟨_, hround, later_of_eq hne hn rfl rfl, .closes hframes, value_close hframes hread⟩
  · obtain ⟨hne, hn⟩ := hpass.pos
    exact .inr ⟨_, round_of_passes hpass, later_of_eq hne hn rfl rfl, .same rfl, value_of_passes hpass⟩
  · have hne : x.rest ≠ [] := fun hnil => List.cons_ne_nil _ _ (hrest.symm.trans hnil)
    rcases hstep with ⟨n, names, hliteral⟩ | ⟨name, a, hopens⟩
    · refine .inr ⟨_, round_of_literal hrest hliteral, later_of_eq hne hliteral.pos rfl rfl, .same rfl, ?_⟩
      refine value_of_tag hrest hliteral.opens.1 hliteral.opens.2 hliteral.pos ?_
      rw [show x.rest = '<' :: rest from hrest]
      exact readTag_literal hliteral
    · have hround := round_of_opens hrest hopens
      have hpos : 0 < tagLength name a := Nat.succ_pos _
      cases hself : a.selfClosing with
      | true =>
        rw [if_pos hself] at hround
        exact .inr ⟨_, hround, later_of_eq hne hpos rfl rfl, .same rfl,
          value_of_tag hrest hopens.tag.no_span hopens.tag.letter hpos (readTag_leaf hopens hself)⟩
      | false =>
        rw [if_neg (by simp [hself])] at hround
        cases hlevels : x.levels with
        | zero =>
          rw [hlevels] at hround
          refine .inl ⟨_, hround, value_of_error ?_, unstuck_error_iff.mpr nofun⟩
          rw [hlevels]
          exact read_tag_error hrest (hrest ▸ hopens.tag.no_span) hopens.tag.letter
            (readTag_tooDeep hopens hself)
        | succ levels =>
          rw [hlevels] at hround
          refine .inr ⟨_, hround, later_of_eq hne hpos rfl rfl, .opens rfl rfl rfl ?_,
            value_openComponent hrest hopens hself hlevels⟩
          rw [show x.rest = '<' :: rest from hrest]
          exact Nat.add_le_add_left hopens.tag.take_eq.1 x.place
  · obtain ⟨hround, hcause⟩ := round_of_fails hd hfails
    exact .inl ⟨_, hround, value_of_error hfails.read_eq, unstuck_error_iff.mpr hcause⟩

lemma round_proceeds (hd : s.delimiters.NonEmpty) : Proceeds place rest (round s) Unstuck := by
  intro x
  rcases round_cases hd x with ⟨r, hround, -, h⟩ | ⟨y, hround, h, -, -⟩
  · rw [hround]
    exact h
  · rw [hround]
    exact h

lemma value_eq_round (hd : s.delimiters.NonEmpty) (x : Reader) :
    x.value s = (x.round s).elim (value s) id := by
  rcases round_cases hd x with ⟨r, hround, h, -⟩ | ⟨y, hround, -, -, h⟩
  · rw [hround]
    exact h
  · rw [hround]
    exact h

lemma round_computes (hd : s.delimiters.NonEmpty) : Computes place rest (round s) (value s) :=
  (round_proceeds hd).computes (value_eq_round hd)

/-! ### Open components are nested -/

/-- The components that are open lie inside of each other in a template: the content of each begins behind the
place of its tag, in the template, and no tag inside of it stands in front of that. -/
structure Nested (text : Text) (x : Reader) : Prop where
  /-- What is still to be read is what lies behind the place. -/
  rest_eq : x.rest = text.drop x.place
  /-- The content of each component has begun. -/
  begins : ∀ fr ∈ x.frames, fr.opened.place < fr.begins ∧ fr.begins ≤ x.place ∧ fr.begins ≤ text.length
  /-- The tag of each component stands in the content of the next outer one. -/
  inside : x.frames.Pairwise fun inner outer => outer.begins ≤ inner.opened.place

lemma nested_start (levels : Nat) (text : Text) : (start levels text).Nested text :=
  ⟨rfl, nofun, .nil⟩

/-- A round keeps the components nested. -/
lemma Nested.round {text : Text} (hd : s.delimiters.NonEmpty) (h : x.Nested text)
    (hround : x.round s = .inl y) : y.Nested text := by
  obtain ⟨hne, hplace, hrest⟩ : Later place rest x y := (round_proceeds hd).movesOn hround
  have honward : Onward x y := by
    rcases round_cases hd x with ⟨r, hend, -, -⟩ | ⟨y', hround', -, honward, -⟩
    · rw [hend] at hround
      cases hround
    · rw [hround'] at hround
      cases hround
      exact honward
  have hrest' : y.rest = text.drop y.place := by
    rw [hrest, h.rest_eq, List.drop_drop]
    congr 1
    omega
  cases honward with
  | same hframes =>
    refine ⟨hrest', fun fr hfr => ?_, hframes ▸ h.inside⟩
    obtain ⟨htag, hbegins, hlength⟩ := h.begins fr (hframes ▸ hfr)
    exact ⟨htag, by omega, hlength⟩
  | @opens fr hframes hopened hbegins hle =>
    have hlength : x.place + x.rest.length = text.length := by
      have hpos := List.length_pos_iff.mpr hne
      rw [h.rest_eq, List.length_drop] at hpos ⊢
      omega
    rw [hlength] at hle
    refine ⟨hrest', fun inner hinner => ?_, ?_⟩
    · rw [hframes, List.mem_cons] at hinner
      rcases hinner with rfl | hinner
      · exact ⟨by omega, by omega, by omega⟩
      · obtain ⟨htag, hbegins, hlength⟩ := h.begins inner hinner
        exact ⟨htag, by omega, hlength⟩
    · rw [hframes, List.pairwise_cons]
      exact ⟨fun outer houter => hopened ▸ (h.begins outer houter).2.1, h.inside⟩
  | @closes fr hframes =>
    have hinside := h.inside
    rw [hframes, List.pairwise_cons] at hinside
    refine ⟨hrest', fun outer houter => ?_, hinside.2⟩
    obtain ⟨htag, hbegins, hlength⟩ := h.begins outer (hframes ▸ List.mem_cons_of_mem _ houter)
    exact ⟨htag, by omega, hlength⟩

lemma nested_of_leads {levels : Nat} {text : Text} (hd : s.delimiters.NonEmpty)
    (h : Leads (round s) (start levels text) x) : x.Nested text := by
  induction h with
  | refl => exact nested_start levels text
  | tail _ hround ih => exact ih.round hd hround

end Reader

/-! ### Parsing ends -/

/-- Every loop ends, within one round more than there are characters left, and computes what its reader
says. -/
structure LoopsEnd (d : Delimiters) : Prop where
  characters : ∀ p, Computes Cursor.place Cursor.rest (Span.runRound p)
    fun x => x.place + (x.rest.takeWhile p).length
  literal : ∀ quote, Computes Cursor.place Cursor.rest (Span.literalRound quote)
    fun x => Span.literalLength quote x.place x.rest
  body : ∀ kind rejectNested, Computes Cursor.place Cursor.rest (Span.bodyRound d kind rejectNested)
    fun x => Span.bodyLength d kind rejectNested x.found x.place x.rest
  rawBlock : Computes Cursor.place Cursor.rest (Span.blockRound d)
    fun x => Span.rawLength d x.place x.rest
  name : Computes Cursor.place Cursor.rest (nameRound d) fun x => nameLength d x.place x.rest
  unquoted : Computes Cursor.place Cursor.rest (unquotedRound d)
    fun x => unquotedLength d x.place x.rest
  quoted : ∀ tag name strict quote,
    Computes Cursor.place Cursor.rest (quotedRound d tag name strict quote)
      fun x => quotedLength d tag name strict quote x.place x.rest
  attributes : ∀ tag strict, Computes Cursor.place Cursor.rest (attributeRound d tag strict)
    fun x => Markup.attributes d tag strict x.place x.found x.rest
  content : ∀ s : Setting, s.delimiters = d →
    Computes Reader.place Reader.rest (Reader.round s) (Reader.value s)

/-- Every reader that succeeds has come to a later place. -/
structure ReadersMoveOn (d : Delimiters) : Prop where
  span : ∀ (s : Source) (place last : Nat) (rejectNested : Bool), s.delimiters = d →
    s.skipSpan place rejectNested = .ok last → place < last
  rawBlock : ∀ (s : Source) (place last : Nat), s.delimiters = d →
    s.skipRawBlock place = .ok last → place < last
  attributes : ∀ (tag : Text) (strict : Bool) (place : Nat) (entries : Table Text Text) (rest : Text)
    (a : Attributes), Markup.attributes d tag strict place entries rest = .ok a → place < a.count
  tag : ∀ (s : Setting) (levels place : Nat) (rest : Text) (t : TagReading), s.delimiters = d →
    readTag s levels place rest = .ok t → place < t.place
  content : ∀ (s : Setting) (levels : Nat) (o : Opened) (p : Progress) (r : ContentReading),
    s.delimiters = d → p.read s levels (some o) = .ok r → p.place < r.place

lemma loopsEnd {d : Delimiters} (hd : d.NonEmpty) : LoopsEnd d where
  characters := Span.run_computes
  literal := Span.literal_computes
  body := Span.body_computes hd
  rawBlock := Span.block_computes hd
  name := name_computes d
  unquoted := unquoted_computes hd
  quoted := quoted_computes hd
  attributes := attribute_computes hd
  content := by
    rintro s rfl
    exact Reader.round_computes hd

lemma readersMoveOn {d : Delimiters} (hd : d.NonEmpty) : ReadersMoveOn d where
  span := by
    rintro s place last rejectNested rfl h
    obtain ⟨-, kind, n, -, hlength, rfl⟩ := Source.skipSpan_eq_ok_iff.mp h
    exact Nat.lt_add_of_pos_right ((Span.length_result hd rejectNested _).2 n hlength)
  rawBlock := by
    rintro s place last rfl h
    unfold Source.skipRawBlock Source.placeAfter at h
    split at h
    · rename_i n hlength
      cases h
      exact Nat.lt_add_of_pos_right ((Span.rawBlockLength_result hd _).2 n hlength)
    · cases h
  attributes := fun _ _ _ _ _ _ h => lt_count_of_attributes h
  tag := fun _ _ _ _ _ _ h => lt_place_of_readTag h
  content := fun _ _ _ _ _ _ h => lt_place_of_read h

/-- Parsing ends on every template, as long as no delimiter is empty: with its nodes or with an error.  Every
loop moves on in each of its rounds and every reader to which it leaves that comes to a later place if it
succeeds, so the whole template is read within one round more than it has characters.  Where a component is read
inside of another one, its tag stands behind the place where the content of that has begun. -/
theorem parse_ends {d : Delimiters} (hd : d.NonEmpty) :
    LoopsEnd d ∧ ReadersMoveOn d ∧
      ∀ (levels : Nat) (text : Text) (components : List Text) (name : Option Text),
        (∃ r, Loop.run (Reader.round (settingFor text components d)) (text.length + 1)
            (.start levels text) = some r ∧ Unstuck r ∧
          parseWithin levels text components d name =
            match r with
            | .error f => .error (.ofFault text name f)
            | .ok content => .ok ⟨content.nodes, content.deferred.eraseDups⟩) ∧
        ∀ x, Leads (Reader.round (settingFor text components d)) (.start levels text) x → x.Nested text := by
  refine ⟨loopsEnd hd, readersMoveOn hd, fun levels text components name => ⟨?_, fun x hleads => ?_⟩⟩
  · have hd' : (settingFor text components d).delimiters.NonEmpty := hd
    obtain ⟨hrun, hunstuck⟩ := (Reader.round_proceeds hd').run_eq (Reader.value_eq_round hd')
      (Nat.lt_succ_self (Reader.start levels text).rest.length)
    exact ⟨_, hrun, hunstuck, rfl⟩
  · exact Reader.nested_of_leads (s := settingFor text components d) hd hleads

/-- A template whose expressions look like tags. -/
theorem parse_ends_tag_like :
    (⟨"<%=", "%>", "<%", "%>", "<%#", "%>"⟩ : Delimiters).NonEmpty ∧
      ∃ content, Loop.run (Reader.round (settingFor "<Box><%= a %><Dot/></Box>" ["Box", "Dot"]
          ⟨"<%=", "%>", "<%", "%>", "<%#", "%>"⟩)) 26 (.start 1 "<Box><%= a %><Dot/></Box>") =
            some (.ok content) ∧
        content.nodes =
          [.component "Box" [] [.raw "<%= a %>", .component "Dot" [] [] true 13] false 0] := by
  have hd : (⟨"<%=", "%>", "<%", "%>", "<%#", "%>"⟩ : Delimiters).NonEmpty := by
    intro kind
    cases kind <;> decide
  refine ⟨hd, ?_⟩
  obtain ⟨⟨r, hrun, -, hparse⟩, -⟩ :=
    (parse_ends hd).2.2 1 "<Box><%= a %><Dot/></Box>" ["Box", "Dot"] none
  have hnodes : parseWithin 1 "<Box><%= a %><Dot/></Box>" ["Box", "Dot"]
      ⟨"<%=", "%>", "<%", "%>", "<%#", "%>"⟩ none =
        .ok ⟨[.component "Box" [] [.raw "<%= a %>", .component "Dot" [] [] true 13] false 0], []⟩ := by
    with_unfolding_all rfl
  rw [hnodes] at hparse
  cases r with
  | error f => cases hparse
  | ok content => exact ⟨content, hrun, (congrArg Parsed.nodes (Except.ok.inj hparse)).symm⟩

end ComponentTags.Markup
