/-
# Nodes tile the template

The nodes of a template lie in it one behind the other, without a gap and without an overlap
(`parseWithin_tiles`).  A raw node is the text of its interval.  The interval of a component begins
at the place of the node with the opening tag, which is all of it if the tag closes itself; otherwise
the intervals of the children follow, tiled in the same way, and the closing tag comes last.  So no
character is lost, none is used twice, and the order is kept.

The invariant of reading (`Tiled`) is that the nodes read so far tile the text up to some place, from
which the text held back reaches up to the place of reading.  The end tag of a `script` or a `style`
is looked up in another text, so the place may run past the end of the template; the nodes then tile
the text up to its end.
-/
import ComponentTags.Proofs.Markup.Steps

namespace ComponentTags

/-! ### Intervals of a text -/

namespace Text

/-- The characters of a text from the place `first` up to the place `last`. -/
def between (text : Text) (first last : Nat) : Text := (text.take last).drop first

lemma between_eq {text : Text} {first n : Nat} :
    between text first (first + n) = (text.drop first).take n := by
  rw [between, List.drop_take, Nat.add_sub_cancel_left]

lemma between_self {text : Text} {place : Nat} : between text place place = [] := by
  simp [between]

/-- Places behind the end of a text are its end. -/
lemma between_min {text : Text} {first last : Nat} :
    between text first (min last text.length) = between text first last := by
  rw [between, between, ← List.take_take, List.take_length]

/-- Neighbouring intervals joined. -/
lemma between_append {text : Text} {a b c : Nat} (hab : a ≤ b) (hbc : b ≤ c) :
    between text a b ++ between text b c = between text a c := by
  rw [between, between, between, List.drop_take, List.drop_take, List.drop_take,
    show c - a = (b - a) + (c - b) by omega, List.take_add, List.drop_drop,
    show a + (b - a) = b by omega]

/-- The first occurrence of a character has no other one in front of it. -/
lemma indexFrom_singleton {c : Char} {skipped n : Nat} {text : Text}
    (h : indexFrom [c] skipped text = some n) :
    ∃ front behind, text = front ++ c :: behind ∧ n = skipped + front.length ∧ c ∉ front := by
  fun_induction indexFrom [c] skipped text with
  | case1 _ hempty => cases hempty
  | case2 => cases h
  | case3 skipped x rest hx =>
    obtain rfl : c = x := by simpa using hx
    exact ⟨[], rest, rfl, by simpa using h.symm, by simp⟩
  | case4 skipped x rest hx ih =>
    obtain ⟨front, behind, rfl, rfl, hfront⟩ := ih h
    refine ⟨x :: front, behind, rfl, by simp; omega, ?_⟩
    rintro (_ | ⟨_, hmem⟩)
    · exact hx (by simp)
    · exact hfront hmem

end Text

namespace Markup

/-! ### Tiles -/

/-- The interval from `first` to `last` is the opening tag of a component: its name, and attributes
that are read up to the end of the interval. -/
structure IsOpeningTag (d : Delimiters) (text : Text) (first last : Nat) (tag : Text)
    (entries : Table Text Text) (selfClosing : Bool) : Prop where
  /-- The name stands right behind the first character. -/
  begins : '<' :: tag <+: Text.between text first last
  /-- The name goes up to the first character that may not be part of it. -/
  name_eq : (text.drop (first + 1)).takeWhile (!endsTagName ·) = tag
  /-- The last characters of the tag say whether it closes itself. -/
  ends : (if selfClosing then "/>" else ">" : String).toList <:+ Text.between text first last
  /-- The attributes of the node are those of the tag, which ends where the interval does. -/
  attributes_eq : ∃ count, first + 1 + tag.length + count = last ∧
    attributes d tag true 0 [] (text.drop (first + 1 + tag.length)) =
      .ok ⟨entries, count, selfClosing⟩

/-- A text is the closing tag of a component. -/
def IsClosingTag (tag : Text) (text : Text) : Prop :=
  ∃ name, text = "</" ++ name ++ ">" ∧ '>' ∉ name ∧ Text.trim name = tag

mutual

/-- A node covers the interval from `first` to `last`. -/
inductive Covers (d : Delimiters) (text : Text) : Nat → Node → Nat → Prop
  /-- A raw node is the text of its interval. -/
  | raw {first last : Nat} {content : Text} (hne : content ≠ [])
      (hcontent : Text.between text first last = content) :
      Covers d text first (.raw content) last
  /-- A component without content is one tag. -/
  | leaf {first last : Nat} {tag : Text} {entries : Table Text Text}
      (hopen : IsOpeningTag d text first last tag entries true) :
      Covers d text first (.component tag entries [] true first) last
  /-- A component with content is an opening tag, the children and a closing tag. -/
  | pair {first inner behind last : Nat} {tag : Text} {entries : Table Text Text}
      {children : List Node} (hopen : IsOpeningTag d text first inner tag entries false)
      (hchildren : Tiles d text inner children behind)
      (hclose : IsClosingTag tag (Text.between text behind last)) :
      Covers d text first (.component tag entries children false first) last

/-- Nodes tile the interval from `first` to `last`: each covers an interval that begins where the one
in front ends. -/
inductive Tiles (d : Delimiters) (text : Text) : Nat → List Node → Nat → Prop
  | nil {place : Nat} : Tiles d text place [] place
  | cons {first middle last : Nat} {node : Node} {rest : List Node}
      (hnode : Covers d text first node middle) (hrest : Tiles d text middle rest last) :
      Tiles d text first (node :: rest) last

end

variable {d : Delimiters} {text : Text}

/-- Another node behind nodes that tile. -/
lemma Tiles.concat {first middle last : Nat} {nodes : List Node} {node : Node}
    (h : Tiles d text first nodes middle) (hnode : Covers d text middle node last) :
    Tiles d text first (nodes ++ [node]) last := by
  induction nodes generalizing first with
  | nil =>
    cases h
    exact .cons hnode .nil
  | cons _ rest ih =>
    cases h with
    | cons hfirst hrest => exact .cons hfirst (ih hrest)

/-! ### Tags -/

/-- The attributes of a tag end with the characters that end the tag. -/
lemma attributes_ends {tag : Text} {strict : Bool} {count : Nat} {entries : Table Text Text}
    {a : Attributes} (h : attributes d tag strict count entries text = .ok a) :
    ∃ n, a.count = count + n ∧ n ≤ text.length ∧
      (if a.selfClosing then "/>" else ">" : String).toList <:+ text.take n := by
  -- what is read behind some characters has its end behind them
  have behind : ∀ {k count : Nat} {text : Text}, (∃ n, a.count = count + k + n ∧
      n ≤ (text.drop k).length ∧
      (if a.selfClosing then "/>" else ">" : String).toList <:+ (text.drop k).take n) →
      ∃ n, a.count = count + n ∧ n ≤ text.length ∧
        (if a.selfClosing then "/>" else ">" : String).toList <:+ text.take n := by
    rintro k count text ⟨n, hcount, hn, hends⟩
    have hne : 0 < ((text.drop k).take n).length :=
      Nat.lt_of_lt_of_le (by split <;> decide) hends.length_le
    rw [List.length_drop] at hn
    rw [List.length_take, List.length_drop] at hne
    refine ⟨k + n, by omega, by omega, ?_⟩
    rw [List.take_add]
    exact hends.trans (List.suffix_append _ _)
  fun_induction attributes d tag strict count entries text with
  | case1 | case5 | case6 | case7 | case9 | case11 | case12 => cases h
  | case2 count entries c rest hblank ih => exact behind (k := 1) (ih h)
  | case3 count entries c rest hblank hclose =>
    cases h
    exact ⟨1, rfl, by simp, by simp [eq_of_beq hclose]⟩
  | case4 count entries c rest hblank hclose hself =>
    cases h
    obtain ⟨rfl, hrest⟩ : c = '/' ∧ rest.head? = some '>' := by simpa using hself
    obtain ⟨rest, rfl⟩ := List.head?_eq_some_iff.mp hrest
    exact ⟨2, rfl, by simp, by simp⟩
  | case8 count entries c rest hblank hclose hself hspan hstrict n hlength ih =>
    exact behind (k := n + 1) (ih h)
  | case10 count entries c rest hblank hclose hself hspan hname hstrict ih =>
    exact behind (k := 1) (ih h)
  | case13 count entries c rest hblank hclose hself hspan n hname name v m hassigned hnew ih =>
    have hrest : (rest.drop n).drop m = (c :: rest).drop (n + 1 + m) := by
      rw [List.drop_drop, Nat.add_right_comm, List.drop_succ_cons]
    have hend := ih h
    rw [hrest, Nat.add_assoc count] at hend
    exact behind hend

/-- The characters of an opening tag. -/
lemma OpensTag.take_eq {strict : Bool} {rest name : Text} {a : Attributes}
    (h : OpensTag d strict rest name a) :
    tagLength name a ≤ rest.length + 1 ∧
      ('<' :: rest).take (tagLength name a) =
        '<' :: (name ++ (rest.drop name.length).take a.count) ∧
      (if a.selfClosing then "/>" else ">" : String).toList <:+
        (rest.drop name.length).take a.count := by
  have hname : name <+: rest := h.name_eq ▸ List.takeWhile_prefix _
  obtain ⟨n, hcount, hn, hends⟩ := attributes_ends h.attributes_eq
  obtain rfl : a.count = n := by omega
  have hlength := hname.length_le
  rw [List.length_drop] at hn
  refine ⟨by rw [tagLength]; omega, ?_, hends⟩
  rw [tagLength, List.take_succ_cons, List.take_add, ← List.prefix_iff_eq_take.mp hname]

/-- The opening tag of a component is an interval from its place on. -/
lemma OpensComponent.isOpeningTag {s : Setting} {place : Nat} {rest tag : Text} {a : Attributes}
    (h : OpensComponent s rest tag a) (hrest : text.drop place = '<' :: rest) :
    IsOpeningTag s.delimiters text place (place + tagLength tag a) tag a.entries a.selfClosing := by
  have hbehind : text.drop (place + 1) = rest := by
    rw [← List.drop_drop, hrest, List.drop_one, List.tail_cons]
  obtain ⟨-, htake, hends⟩ := h.tag.take_eq
  refine ⟨?_, by rw [hbehind, h.tag.name_eq], ?_, a.count, by rw [tagLength]; omega, ?_⟩
  · rw [Text.between_eq, hrest, htake]
    exact List.prefix_append ('<' :: tag) _
  · rw [Text.between_eq, hrest, htake]
    exact hends.trans (List.suffix_append ('<' :: tag) _)
  · rw [← List.drop_drop, hbehind]
    exact h.tag.attributes_eq

/-- The closing tag of a component is what it was read from. -/
lemma Closes.isClosingTag {tag : Text} {n : Nat} (h : Closes d tag text n) :
    IsClosingTag tag (text.take n) ∧ 0 < n ∧ n ≤ text.length := by
  obtain ⟨hspan, hclosing⟩ := h
  unfold closingTag at hclosing
  split at hclosing
  · cases hclosing
  rename_i m hindex
  obtain ⟨front, behind, rfl, hm, hfront⟩ := @Text.indexFrom_singleton '>' 0 m _ hindex
  obtain rfl : m = front.length := by omega
  cases hclosing
  refine ⟨⟨front, ?_, hfront, ?_⟩, by omega, ?_⟩
  · rw [Nat.add_comm 2, List.take_succ_cons, List.take_succ_cons, List.take_length_add_append]
    rfl
  · rw [List.take_left]
  · simp
    omega

/-! ### The invariant of reading -/

/-- The nodes read so far, with the text held back, tile the text from `first` up to the place of
reading. -/
structure Tiled (d : Delimiters) (text : Text) (first : Nat) (p : Progress) : Prop where
  /-- What is still to be read is what lies behind the place. -/
  rest_eq : p.rest = text.drop p.place
  /-- The text held back reaches from the end of the nodes up to the place. -/
  tiles : ∃ last, Tiles d text first p.nodes.reverse last ∧ last ≤ p.place ∧ last ≤ text.length ∧
    p.held.reverse = Text.between text last p.place

namespace Tiled

variable {first : Nat} {p : Progress}

lemma start {place : Nat} (hplace : place ≤ text.length) :
    Tiled d text place (.start place (text.drop place)) :=
  ⟨rfl, place, .nil, Nat.le_refl _, hplace, Text.between_self.symm⟩

/-- The nodes with the text held back as a raw node behind them. -/
lemma flush (h : Tiled d text first p) :
    Tiles d text first (flush p.held p.nodes).reverse (min p.place text.length) := by
  obtain ⟨-, last, hnodes, hplace, hlength, hheld⟩ := h
  unfold Markup.flush
  split
  · rename_i hempty
    -- nothing is held back, so the nodes reach up to the place
    rw [List.isEmpty_iff.mp hempty, List.reverse_nil, eq_comm, Text.between,
      List.drop_eq_nil_iff, List.length_take] at hheld
    rwa [show min p.place text.length = last by omega]
  · rename_i hempty
    rw [List.reverse_cons]
    refine hnodes.concat (.raw (by simpa using hempty) ?_)
    rw [Text.between_min, hheld]

/-- Holding back more characters. -/
lemma pass (h : Tiled d text first p) (n : Nat) : Tiled d text first (p.pass n) := by
  obtain ⟨hrest, last, hnodes, hplace, hlength, hheld⟩ := h
  refine ⟨by rw [Progress.pass, hrest, List.drop_drop], last, hnodes, ?_, hlength, ?_⟩
  · exact Nat.le_add_right_of_le hplace
  · simp only [Progress.pass, hold, List.reverseAux_eq, List.reverse_append, List.reverse_reverse]
    rw [hheld, hrest, ← Text.between_eq]
    exact Text.between_append hplace (Nat.le_add_right _ _)

/-- A node that covers what is passed. -/
lemma add (h : Tiled d text first p) {n : Nat} {node : Node} {names : List Text}
    (hplace : p.place ≤ text.length)
    (hnode : Covers d text p.place node (min (p.place + n) text.length)) :
    Tiled d text first (p.add n node names) := by
  refine ⟨by rw [Progress.add, h.rest_eq, List.drop_drop], min (p.place + n) text.length, ?_,
    Nat.min_le_left _ _, Nat.min_le_right _ _, ?_⟩
  · have hflush := h.flush
    rw [Nat.min_eq_left hplace] at hflush
    simp only [Progress.add, List.reverse_cons]
    exact hflush.concat hnode
  · simp only [Progress.add, List.reverse_nil]
    rw [← Text.between_min, Text.between_self]

/-- The characters that are left to be read lie in the text. -/
lemma place_add_le (h : Tiled d text first p) {n : Nat} (hpos : 0 < n) (hn : n ≤ p.rest.length) :
    p.place + n ≤ text.length := by
  rw [h.rest_eq, List.length_drop] at hn
  omega

end Tiled

/-- Steps keep the nodes tiling the text. -/
lemma Steps.tiled {s : Setting} {levels first : Nat} {opened : Option Text} {p q : Progress}
    (h : Steps s levels opened p q) (hp : Tiled s.delimiters text first p) :
    Tiled s.delimiters text first q := by
  induction h generalizing first with
  | refl => exact hp
  | @pass _ n _ _ _ _ _ ih => exact ih (hp.pass n)
  | @literal _ n _ p _ rest _ hrest hliteral _ ih =>
    have hplace := hp.place_add_le Nat.one_pos (by simp [hrest])
    refine ih (hp.add (by omega) (.raw ?_ ?_))
    · simp [hrest, Nat.ne_of_gt hliteral.pos]
    · rw [Text.between_min, Text.between_eq, hp.rest_eq]
  | @leaf _ _ p _ rest name a hrest hopen hself _ ih =>
    have htag := hopen.isOpeningTag (hp.rest_eq ▸ hrest)
    rw [hself] at htag
    have hplace := hp.place_add_le (n := tagLength name a) (Nat.succ_pos _)
      (by rw [hrest]; exact hopen.tag.take_eq.1)
    refine ih (hp.add (by omega) ?_)
    rw [Nat.min_eq_left hplace]
    exact .leaf htag
  | @component levels n _ p q inner rest name a hrest hopen hself content hclose _ ihc ih =>
    have htag := hopen.isOpeningTag (hp.rest_eq ▸ hrest)
    rw [hself] at htag
    have hplace := hp.place_add_le (n := tagLength name a) (Nat.succ_pos _)
      (by rw [hrest]; exact hopen.tag.take_eq.1)
    -- the children tile what lies between the opening and the closing tag
    have hinner : Tiled s.delimiters text (p.place + tagLength name a) inner := by
      refine ihc ?_
      rw [hp.rest_eq, List.drop_drop]
      exact .start hplace
    obtain ⟨hclosing, hpos, hlength⟩ := hclose.isClosingTag
    have hbehind := hinner.place_add_le hpos hlength
    have hchildren := hinner.flush
    rw [Nat.min_eq_left (by omega)] at hchildren
    have hforward := content.rest_eq.1
    simp only [Progress.start] at hforward
    refine ih (hp.add (by omega) ?_)
    rw [show p.place + (inner.place + n - p.place) = inner.place + n by omega,
      Nat.min_eq_left hbehind]
    refine .pair htag hchildren ?_
    rw [Text.between_eq, ← hinner.rest_eq]
    exact hclosing

/-! ### Templates -/

/-- The nodes of a parsed template tile it. -/
theorem parseWithin_tiles {levels : Nat} {components : List Text} {name : Option Text}
    {parsed : Parsed} (h : parseWithin levels text components d name = .ok parsed) :
    Tiles d text 0 parsed.nodes text.length := by
  obtain ⟨q, hsteps, hrest, rfl⟩ := parseWithin_eq_ok_iff.mp h
  have hstart : Tiled d text 0 (.start 0 text) := .start (Nat.zero_le _)
  have hq : Tiled d text 0 q := hsteps.tiled hstart
  have hplace : text.length ≤ q.place := by
    have hlength := congrArg List.length hq.rest_eq
    rw [hrest, List.length_nil, List.length_drop] at hlength
    omega
  have hnodes := hq.flush
  rwa [Nat.min_eq_right hplace] at hnodes

/-- A component between literal markup, with another one between its tags. -/
theorem parseWithin_tiles_nested :
    parseWithin 2 "a<Box k=\"v\">b<Dot/></Box >" ["Box", "Dot"] =
        .ok ⟨[.raw "a", .component "Box" [("k", "v")]
          [.raw "b", .component "Dot" [] [] true 13] false 1], []⟩ ∧
      Tiles .standard "a<Box k=\"v\">b<Dot/></Box >" 0
        [.raw "a", .component "Box" [("k", "v")]
          [.raw "b", .component "Dot" [] [] true 13] false 1] 26 := by
  have hparse : parseWithin 2 "a<Box k=\"v\">b<Dot/></Box >" ["Box", "Dot"] =
      .ok ⟨[.raw "a", .component "Box" [("k", "v")]
        [.raw "b", .component "Dot" [] [] true 13] false 1], []⟩ := by
    with_unfolding_all rfl
  exact ⟨hparse, parseWithin_tiles hparse⟩

end Markup

end ComponentTags
