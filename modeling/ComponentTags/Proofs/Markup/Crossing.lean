/-
# Reading a template walks over its spans

The attributes of a tag are read with a view of the spans among them and in their values, so where the
attributes begin outside of a span, the tag ends outside of one (`attributes_crosses`).  The name of a
tag, a closing tag, a comment, a declaration and the text of a `script` or a `style` are read without such
a view.  If none of these ends inside of a span (`Untorn`), reading only comes by places outside of spans,
and no raw node cuts one (`Steps.walked`).
-/
import ComponentTags.Proofs.Markup.Lenient
import ComponentTags.Proofs.Markup.Tiling
import ComponentTags.Proofs.Scope.Crossed

namespace ComponentTags

open Delimiters (standard)

/-! ### Nodes and the nodes below them -/

namespace Node

/-- All of some nodes and below them have a property. -/
def Everywhere (P : Node → Prop) (nodes : List Node) : Prop := ∀ node ∈ walk nodes, P node

/-- A raw node does not cut a span. -/
def IsUnbroken : Node → Prop
  | raw content => Unbroken content
  | component .. => True

/-- The attributes of a node have values without spans but expressions, none of which is cut. -/
def HasValues : Node → Prop
  | raw _ => True
  | component _ attributes _ _ _ => ∀ entry ∈ attributes, IsValue entry.2

variable {P : Node → Prop} {a b rest children : List Node}

@[simp] lemma everywhere_nil : Everywhere P [] := by
  simp [Everywhere, walk]

@[simp] lemma everywhere_raw_iff {content : Text} :
    Everywhere P (raw content :: rest) ↔ P (raw content) ∧ Everywhere P rest := by
  simp [Everywhere, walk, withDescendants]

@[simp] lemma everywhere_component_iff {tag : Text} {attributes : Table Text Text}
    {selfClosing : Bool} {offset : Int} :
    Everywhere P (component tag attributes children selfClosing offset :: rest) ↔
      P (component tag attributes children selfClosing offset) ∧ Everywhere P children ∧
        Everywhere P rest := by
  simp only [Everywhere, walk, withDescendants, List.cons_append, List.mem_cons, List.mem_append,
    or_imp, forall_and, forall_eq]

lemma everywhere_append_iff : Everywhere P (a ++ b) ↔ Everywhere P a ∧ Everywhere P b := by
  simp only [Everywhere, walk_append, List.mem_append, or_imp, forall_and]

lemma everywhere_cons_iff {node : Node} :
    Everywhere P (node :: rest) ↔ Everywhere P [node] ∧ Everywhere P rest :=
  everywhere_append_iff (a := [node])

lemma everywhere_reverse_iff : Everywhere P a.reverse ↔ Everywhere P a := by
  induction a with
  | nil => rfl
  | cons node rest ih =>
    rw [List.reverse_cons, everywhere_append_iff, ih, and_comm]
    exact everywhere_cons_iff.symm

end Node

namespace Markup

open Node (Everywhere)

variable {strict : Bool} {tag name text v : Text} {count n : Nat}

/-! ### Attributes -/

lemma blanks_crosses (strict : Bool) (text : Text) :
    Crosses strict text (text.takeWhile Text.isBlank).length := by
  induction text with
  | nil => exact .zero
  | cons c rest ih =>
    by_cases hc : Text.isBlank c = true
    · rw [List.takeWhile_cons_of_pos hc]
      refine .character (kindAt?_eq_none_of_ne ?_) ih
      rintro rfl
      exact absurd hc (by decide)
    · rw [List.takeWhile_cons_of_neg hc]
      exact .zero

/-- The name of an attribute ends in front of a span. -/
lemma nameLength_crosses (strict : Bool) (count : Nat) (text : Text) :
    ∃ m, nameLength standard count text = count + m ∧ Crosses strict text m := by
  fun_induction nameLength standard count text with
  | case1 => exact ⟨0, rfl, .zero⟩
  | case2 => exact ⟨0, rfl, .zero⟩
  | case3 count c rest hends ih =>
    obtain ⟨m, hm, hcrosses⟩ := ih
    have hkind : Span.kindAt? standard (c :: rest) = none := by
      simp only [endsName, Bool.or_eq_true, not_or, Bool.not_eq_true, Option.isSome_eq_false_iff,
        Option.isNone_iff_eq_none] at hends
      exact hends.1.2
    exact ⟨m + 1, by omega, .character hkind hcrosses⟩

lemma unquotedLength_crosses (h : unquotedLength standard count text = .ok n) :
    ∃ m, n = count + m ∧ Crosses false text m := by
  fun_induction unquotedLength standard count text with
  | case1 | case2 =>
    cases h
    exact ⟨0, rfl, .zero⟩
  | case3 | case4 => cases h
  | case5 count c rest hends hspan k hlength ih =>
    obtain ⟨kind, hkind⟩ := Option.isSome_iff_exists.mp hspan
    obtain ⟨m, rfl, hcrosses⟩ := ih h
    exact ⟨k + 1 + m, by omega, .span hkind (by simp) hlength hcrosses⟩
  | case6 count c rest hends hspan ih =>
    obtain ⟨m, rfl, hcrosses⟩ := ih h
    exact ⟨m + 1, by omega, .character (by simpa using hspan) hcrosses⟩

/-- A quoted value ends in front of its quote. -/
lemma quotedLength_crosses {quote : Char}
    (h : quotedLength standard tag name strict quote count text = .ok n) :
    ∃ m, n = count + m ∧ Crosses strict text m ∧ (text.drop m).head? = some quote := by
  fun_induction quotedLength standard tag name strict quote count text with
  | case1 => cases h
  | case2 =>
    cases h
    exact ⟨0, rfl, .zero, rfl⟩
  | case3 count c rest hc hkind ih =>
    obtain ⟨m, rfl, hcrosses, hquote⟩ := ih h
    exact ⟨m + 1, by omega, .character hkind hcrosses, hquote⟩
  | case4 | case5 | case6 => cases h
  | case7 count c rest hc kind hkind hexpression k hlength ih =>
    obtain ⟨m, rfl, hcrosses, hquote⟩ := ih h
    refine ⟨k + 1 + m, by omega, .span hkind (fun hs => ?_) (Span.length_lenient hlength) hcrosses, ?_⟩
    · simpa [hs] using hexpression
    · rw [← hquote, Nat.add_right_comm, List.drop_succ_cons, List.drop_drop]

lemma isValue_bareValue : IsValue bareValue := by
  have hcrosses : Crosses true bareValue 4 :=
    .character rfl (.character rfl (.character rfl (.one rfl)))
  exact hcrosses.isValue_take

lemma value_crosses (h : value standard tag name strict text = .ok (v, n)) :
    Crosses false text n ∧ (strict = true → IsValue v) := by
  -- without quotes a value is read leniently only
  have hbare : ∀ text : Text, value.bare standard tag name strict text = .ok (v, n) →
      Crosses false text n ∧ (strict = true → IsValue v) := by
    intro text h
    unfold value.bare at h
    split at h
    · cases h
    rename_i hstrict
    split at h
    · cases h
    rename_i m hm
    cases h
    obtain ⟨k, rfl, hcrosses⟩ := unquotedLength_crosses hm
    rw [Nat.zero_add]
    exact ⟨hcrosses, fun hs => absurd hs hstrict⟩
  cases text with
  | nil => exact hbare [] h
  | cons c rest =>
    simp only [value] at h
    split at h
    · rename_i hquote
      split at h
      · cases h
      rename_i m hm
      cases h
      obtain ⟨k, rfl, hcrosses, hclose⟩ := quotedLength_crosses hm
      obtain ⟨behind, hbehind⟩ := List.head?_eq_some_iff.mp hclose
      have hne : c ≠ '\x7b' := by
        rintro rfl
        exact absurd hquote (by decide)
      rw [Nat.add_sub_cancel_left]
      constructor
      · rw [Nat.add_comm 1 k]
        refine .character (kindAt?_eq_none_of_ne hne) (hcrosses.lenient.trans ?_)
        rw [hbehind]
        exact .one (kindAt?_eq_none_of_ne hne)
      · rintro rfl
        exact hcrosses.isValue_take
    · exact hbare (c :: rest) h

lemma assigned_crosses (h : assigned standard tag name strict text = .ok (v, n)) :
    Crosses false text n ∧ (strict = true → IsValue v) := by
  have hblanks := blanks_crosses false text
  unfold assigned at h
  simp only at h
  split at h
  · rename_i rest hrest
    split at h
    · cases h
    rename_i w k hvalue
    cases h
    obtain ⟨hcrosses, hv⟩ := value_crosses hvalue
    have hequals : Crosses false ('=' :: rest) 1 := .one (kindAt?_eq_none_of_ne (by decide))
    rw [← hrest] at hequals
    have hbehind : text.drop ((text.takeWhile Text.isBlank).length + 1) = rest := by
      rw [← List.drop_drop, hrest, List.drop_one, List.tail_cons]
    have hwalk : Crosses false text ((text.takeWhile Text.isBlank).length + 1 +
        (rest.takeWhile Text.isBlank).length) := by
      refine (hblanks.trans hequals).trans ?_
      rw [hbehind]
      exact blanks_crosses false rest
    refine ⟨hwalk.trans ?_, hv⟩
    rw [← List.drop_drop, hbehind]
    exact hcrosses
  · cases h
    exact ⟨hblanks, fun _ => isValue_bareValue⟩

lemma mem_set {entries : Table Text Text} {entry : Text × Text}
    (h : entry ∈ entries.set name v) : entry ∈ entries ∨ entry.2 = v := by
  induction entries with
  | nil => exact .inr (by simpa [Table.set] using congrArg Prod.snd (List.mem_singleton.mp h))
  | cons first rest ih =>
    obtain ⟨key, value⟩ := first
    rw [Table.set] at h
    split at h
    · rcases List.mem_cons.mp h with rfl | h
      · exact .inr rfl
      · exact .inl (.tail _ h)
    · rcases List.mem_cons.mp h with rfl | h
      · exact .inl (.head _)
      · exact (ih h).imp (.tail _) id

/-- The attributes of a tag end outside of spans if they begin there, and read strictly they have values
without spans but expressions. -/
lemma attributes_crosses {entries : Table Text Text} {a : Attributes}
    (h : attributes standard tag strict count entries text = .ok a) :
    (∃ m, a.count = count + m ∧ Crosses false text m) ∧
      (strict = true → (∀ entry ∈ entries, IsValue entry.2) → ∀ entry ∈ a.entries, IsValue entry.2) := by
  -- what is read behind some characters that are crossed
  have behind : ∀ {k count : Nat} {text : Text}, Crosses false text k →
      (∃ m, a.count = count + k + m ∧ Crosses false (text.drop k) m) →
      ∃ m, a.count = count + m ∧ Crosses false text m := by
    rintro k count text hfront ⟨m, hcount, hcrosses⟩
    exact ⟨k + m, by omega, hfront.trans hcrosses⟩
  have hone : ∀ {c : Char} {rest : Text}, c ≠ '\x7b' → Crosses false (c :: rest) 1 :=
    fun hc => .one (kindAt?_eq_none_of_ne hc)
  fun_induction attributes standard tag strict count entries text with
  | case1 | case5 | case6 | case7 | case9 | case11 | case12 => cases h
  | case2 count entries c rest hblank ih =>
    have hc : c ≠ '\x7b' := by
      rintro rfl
      exact absurd hblank (by decide)
    obtain ⟨hcount, hvalues⟩ := ih h
    exact ⟨behind (hone hc) hcount, hvalues⟩
  | case3 count entries c rest hblank hclose =>
    cases h
    have hc : c ≠ '\x7b' := by
      rintro rfl
      exact absurd hclose (by decide)
    exact ⟨⟨1, rfl, hone hc⟩, fun _ hvalues => hvalues⟩
  | case4 count entries c rest hblank hclose hself =>
    cases h
    obtain ⟨rfl, hrest⟩ : c = '/' ∧ rest.head? = some '>' := by simpa using hself
    obtain ⟨rest, rfl⟩ := List.head?_eq_some_iff.mp hrest
    refine ⟨⟨2, rfl, .character ?_ (hone (by decide))⟩, fun _ hvalues => hvalues⟩
    exact kindAt?_eq_none_of_ne (by decide)
  | case8 count entries c rest hblank hclose hself hspan hstrict n hlength ih =>
    obtain ⟨kind, hkind⟩ := Option.isSome_iff_exists.mp hspan
    obtain ⟨hcount, hvalues⟩ := ih h
    exact ⟨behind (.whole hkind hlength) hcount, hvalues⟩
  | case10 count entries c rest hblank hclose hself hspan hname hstrict ih =>
    obtain ⟨hcount, hvalues⟩ := ih h
    exact ⟨behind (.one (by simpa using hspan)) hcount, hvalues⟩
  | case13 count entries c rest hblank hclose hself hspan n hname name v m hassigned hnew ih =>
    obtain ⟨hcount, hvalues⟩ := ih h
    obtain ⟨hassigned, hv⟩ := assigned_crosses hassigned
    obtain ⟨k, hk, hfront⟩ := nameLength_crosses false 0 (c :: rest)
    obtain rfl : k = n + 1 := by omega
    refine ⟨behind hfront (behind hassigned ?_), fun hs hentries => hvalues hs fun entry hentry => ?_⟩
    · exact hcount
    · rcases mem_set hentry with hentry | rfl
      · exact hentries entry hentry
      · exact hv hs

/-! ### Templates without torn spans -/

/-- The reading of a text comes by a place. -/
inductive Visits (s : Setting) (text : Text) : Nat → Prop
  | start : Visits s text 0
  | pass {place n : Nat} {opened : Option Text} (hplace : Visits s text place)
      (h : Passes s opened (text.drop place) n) : Visits s text (place + n)
  | literal {place n : Nat} {rest : Text} {names : List Text} (hplace : Visits s text place)
      (hrest : text.drop place = '<' :: rest) (h : Literal s place rest n names) :
      Visits s text (place + n)
  /-- The opening tag of a component. -/
  | opening {place : Nat} {rest name : Text} {a : Attributes} (hplace : Visits s text place)
      (hrest : text.drop place = '<' :: rest) (h : OpensComponent s rest name a) :
      Visits s text (place + tagLength name a)
  /-- The closing tag of a component. -/
  | closing {place n : Nat} {name : Text} (hplace : Visits s text place)
      (h : Closes s.delimiters name (text.drop place) n) : Visits s text (place + n)

/-- No markup that is read without a view of the spans in it ends inside of a span. -/
structure Untorn (s : Setting) (text : Text) : Prop where
  /-- A closing tag. -/
  closing {place n : Nat} {rest name : Text} (hplace : Visits s text place)
      (hrest : text.drop place = '<' :: '/' :: rest) (h : closingTag rest = .ok (name, n)) :
      Crosses false text (place + (2 + n))
  /-- A comment, a declaration or a stray `<`. -/
  declaration {place n : Nat} {rest : Text} (hplace : Visits s text place)
      (hrest : text.drop place = '<' :: rest) (hslash : rest.head? ≠ some '/')
      (hletter : rest.head?.any Text.isLetter = false) (h : declarationLength rest = .ok n) :
      Crosses false text (place + n)
  /-- The name of a tag, or at least the tag. -/
  tag {place : Nat} {rest name : Text} {a : Attributes} (hplace : Visits s text place)
      (hrest : text.drop place = '<' :: rest) (h : OpensTag standard false rest name a) :
      Crosses false text (place + (name.length + 1)) ∨ Crosses false text (place + tagLength name a)
  /-- A `script` or a `style` with its text. -/
  rawText {place : Nat} {rest name : Text} {a : Attributes} (hplace : Visits s text place)
      (hrest : text.drop place = '<' :: rest) (h : OpensTag standard false rest name a)
      (hname : isComponentName name = false) (hraw : isRawTextName name = true)
      (hself : a.selfClosing = false) :
      Crosses false text (place + (tagLength name a +
        rawTextLength s name (place + tagLength name a) (rest.drop (name.length + a.count))))

/-- What has been read of a text came by places outside of spans only. -/
structure Walked (s : Setting) (text : Text) (p : Progress) : Prop where
  /-- What is still to be read is what lies behind the place. -/
  rest_eq : p.rest = text.drop p.place
  visits : Visits s text p.place
  outside : Crosses false text p.place
  /-- The text held back began outside of spans. -/
  held : ∃ first, Crosses false text first ∧ first ≤ p.place ∧
    p.held.reverse = Text.between text first p.place
  nodes : Everywhere Node.IsUnbroken p.nodes

variable {s : Setting} {levels : Nat} {opened : Option Text} {p q : Progress}

namespace Walked

lemma start {place : Nat} (hvisits : Visits s text place) (hplace : Crosses false text place) :
    Walked s text (.start place (text.drop place)) :=
  ⟨rfl, hvisits, hplace, ⟨place, hplace, Nat.le_refl _, Text.between_self.symm⟩, Node.everywhere_nil⟩

/-- The nodes with the text held back as a raw node in front of them. -/
lemma flush (h : Walked s text p) : Everywhere Node.IsUnbroken (flush p.held p.nodes) := by
  obtain ⟨first, hfirst, hle, hheld⟩ := h.held
  unfold Markup.flush
  split
  · exact h.nodes
  · rw [Node.everywhere_raw_iff, hheld, Text.between, List.drop_take]
    exact ⟨hfirst.unbroken_between h.outside hle, h.nodes⟩

lemma pass (h : Walked s text p) (hpass : Passes s opened p.rest n)
    (hn : Crosses false text (p.place + n)) : Walked s text (p.pass n) := by
  obtain ⟨first, hfirst, hle, hheld⟩ := h.held
  refine ⟨by rw [Progress.pass, h.rest_eq, List.drop_drop], h.visits.pass (h.rest_eq ▸ hpass), hn,
    ⟨first, hfirst, ?_, ?_⟩, h.nodes⟩
  · exact Nat.le_add_right_of_le hle
  · simp only [Progress.pass, hold, List.reverseAux_eq, List.reverse_append, List.reverse_reverse]
    rw [hheld, h.rest_eq, ← Text.between_eq]
    exact Text.between_append hle (Nat.le_add_right _ _)

lemma add (h : Walked s text p) {node : Node} {names : List Text}
    (hvisits : Visits s text (p.place + n)) (hn : Crosses false text (p.place + n))
    (hnode : Everywhere Node.IsUnbroken [node]) : Walked s text (p.add n node names) where
  rest_eq := by rw [Progress.add, h.rest_eq, List.drop_drop]
  visits := hvisits
  outside := hn
  held := ⟨p.place + n, hn, Nat.le_refl _, Text.between_self.symm⟩
  nodes := Node.everywhere_cons_iff.mpr ⟨hnode, h.flush⟩

lemma content (h : Walked s text p) : Everywhere Node.IsUnbroken p.content :=
  Node.everywhere_reverse_iff.mpr h.flush

/-- A raw node up to a place outside of spans. -/
lemma raw (h : Walked s text p) (hn : Crosses false text (p.place + n)) :
    Everywhere Node.IsUnbroken [.raw (p.rest.take n)] := by
  have hunbroken := h.outside.unbroken_between hn (Nat.le_add_right _ _)
  rw [Nat.add_sub_cancel_left, ← h.rest_eq] at hunbroken
  exact Node.everywhere_raw_iff.mpr ⟨hunbroken, Node.everywhere_nil⟩

end Walked

/-- A tag ends outside of spans. -/
lemma OpensTag.crosses (hs : Untorn s text) (hp : Walked s text p) {rest : Text} {a : Attributes}
    (hrest : text.drop p.place = '<' :: rest) (h : OpensTag standard strict rest name a) :
    Crosses false text (p.place + tagLength name a) := by
  have hlenient : OpensTag standard false rest name a := by
    cases strict with
    | false => exact h
    | true => exact ⟨h.no_span, h.letter, h.name_eq, attributes_lenient h.attributes_eq⟩
  rcases hs.tag hp.visits hrest hlenient with hname | htag
  · -- behind the name the attributes are walked over
    obtain ⟨⟨m, hcount, hattributes⟩, -⟩ := attributes_crosses h.attributes_eq
    have hbehind : text.drop (p.place + (name.length + 1)) = rest.drop name.length := by
      rw [← List.drop_drop, hrest, List.drop_succ_cons]
    rw [← hbehind] at hattributes
    have hwalk := hname.trans hattributes
    rwa [show p.place + (name.length + 1) + m = p.place + tagLength name a by rw [tagLength]; omega]
      at hwalk
  · exact htag

lemma Passes.crosses (hs : Untorn s text) (hd : s.delimiters = standard) (hp : Walked s text p)
    (h : Passes s opened p.rest n) : Crosses false text (p.place + n) := by
  have hrest := hp.rest_eq
  generalize hbehind : p.rest = behind at h hrest
  cases h with
  | span hkind hlength =>
    rw [hd] at hkind hlength
    obtain ⟨kind, hkind⟩ := Option.isSome_iff_exists.mp hkind
    refine hp.outside.trans ?_
    rw [← hrest]
    exact .whole hkind hlength
  | character hspan _ =>
    rw [NoSpan, hd, Bool.not_eq_true, Option.isSome_eq_false_iff, Option.isNone_iff_eq_none] at hspan
    refine hp.outside.trans ?_
    rw [← hrest]
    exact .one hspan
  | closing _ hclosing _ _ => exact hs.closing hp.visits hrest.symm hclosing
  | declaration _ hslash hletter hlength =>
    exact hs.declaration hp.visits hrest.symm hslash hletter hlength

lemma Literal.crosses (hs : Untorn s text) (hd : s.delimiters = standard) (hp : Walked s text p)
    {rest : Text} {names : List Text} (hrest : text.drop p.place = '<' :: rest)
    (h : Literal s p.place rest n names) : Crosses false text (p.place + n) := by
  cases h with
  | @element name a htag hname =>
    rw [hd] at htag
    split
    · rename_i hraw
      rw [Bool.and_eq_true, Bool.not_eq_true'] at hraw
      exact hs.rawText hp.visits hrest htag hname hraw.1 hraw.2
    · exact htag.crosses hs hp hrest
  | unknown htag =>
    rw [hd] at htag
    exact htag.crosses hs hp hrest

lemma Closes.crosses (hs : Untorn s text) (hp : Walked s text p) {d : Delimiters}
    (h : Closes d name p.rest n) : Crosses false text (p.place + n) := by
  have hrest := hp.rest_eq
  generalize p.rest = behind at h hrest
  cases h with
  | intro _ hclosing => exact hs.closing hp.visits hrest.symm hclosing

/-- A template in which no markup tears a span is read without cutting one. -/
lemma Steps.walked (hs : Untorn s text) (hd : s.delimiters = standard)
    (h : Steps s levels opened p q) (hp : Walked s text p) : Walked s text q := by
  induction h with
  | refl => exact hp
  | pass h _ ih => exact ih (hp.pass h (h.crosses hs hd hp))
  | literal hrest h _ ih =>
    have hplace := hp.rest_eq.symm.trans hrest
    have hcrosses := h.crosses hs hd hp hplace
    exact ih (hp.add (hp.visits.literal hplace h) hcrosses (hp.raw hcrosses))
  | leaf hrest h _ _ ih =>
    have hplace := hp.rest_eq.symm.trans hrest
    have htag := h.tag
    rw [hd] at htag
    exact ih (hp.add (hp.visits.opening hplace h) (htag.crosses hs hp hplace)
      (by simp [Node.IsUnbroken]))
  | @component levels n _ p q inner rest name a hrest h _ content hclose _ ihc ih =>
    have hplace := hp.rest_eq.symm.trans hrest
    have htag := h.tag
    rw [hd] at htag
    have hinner : Walked s text inner := by
      refine ihc ?_
      rw [hp.rest_eq, List.drop_drop]
      exact .start (hp.visits.opening hplace h) (htag.crosses hs hp hplace)
    have hvisits := hinner.visits.closing (hinner.rest_eq ▸ hclose)
    have hend := hclose.crosses hs hinner
    have hforward := content.rest_eq.1
    simp only [Progress.start] at hforward
    rw [show inner.place + n = p.place + (inner.place + n - p.place) by omega] at hend hvisits
    exact ih (hp.add hvisits hend (by simpa [Node.IsUnbroken] using hinner.content))

/-! ### Values of attributes -/

lemma everywhere_flush {P : Node → Prop} {held : Text} {nodes : List Node}
    (hraw : ∀ content, P (.raw content)) (h : Everywhere P nodes) :
    Everywhere P (flush held nodes) := by
  unfold Markup.flush
  split
  · exact h
  · exact Node.everywhere_raw_iff.mpr ⟨hraw _, h⟩

/-- The values of the attributes of a component that is known. -/
lemma OpensComponent.isValue (hd : s.delimiters = standard) {rest : Text} {a : Attributes}
    (h : OpensComponent s rest name a) : ∀ entry ∈ a.entries, IsValue entry.2 := by
  have hattributes := h.tag.attributes_eq
  rw [hd] at hattributes
  exact (attributes_crosses hattributes).2 rfl (by simp)

lemma Steps.hasValues (hd : s.delimiters = standard) (h : Steps s levels opened p q)
    (hp : Everywhere Node.HasValues p.nodes) : Everywhere Node.HasValues q.nodes := by
  have hflush : ∀ {held : Text} {nodes : List Node}, Everywhere Node.HasValues nodes →
      Everywhere Node.HasValues (flush held nodes) := everywhere_flush fun _ => trivial
  induction h with
  | refl => exact hp
  | pass _ _ ih => exact ih hp
  | literal _ _ _ ih => exact ih (Node.everywhere_raw_iff.mpr ⟨trivial, hflush hp⟩)
  | leaf _ h _ _ ih =>
    exact ih (Node.everywhere_component_iff.mpr ⟨h.isValue hd, Node.everywhere_nil, hflush hp⟩)
  | component _ h _ _ _ _ ihc ih =>
    refine ih (Node.everywhere_component_iff.mpr ⟨h.isValue hd, ?_, hflush hp⟩)
    exact Node.everywhere_reverse_iff.mpr (hflush (ihc Node.everywhere_nil))

/-! ### Parsed templates -/

variable {components : List Text} {template : Option Text} {parsed : Parsed}

/-- The attributes of the components of a template have values without spans but expressions. -/
lemma hasValues_of_parseWithin
    (h : parseWithin levels text components standard template = .ok parsed) :
    Everywhere Node.HasValues parsed.nodes := by
  obtain ⟨q, hsteps, -, rfl⟩ := parseWithin_eq_ok_iff.mp h
  have hq := hsteps.hasValues rfl Node.everywhere_nil
  exact Node.everywhere_reverse_iff.mpr (everywhere_flush (fun _ => trivial) hq)

/-- No raw node of a template cuts a span if no markup tears one. -/
lemma isUnbroken_of_parseWithin (hs : Untorn (settingFor text components standard) text)
    (h : parseWithin levels text components standard template = .ok parsed) :
    Everywhere Node.IsUnbroken parsed.nodes := by
  obtain ⟨q, hsteps, -, rfl⟩ := parseWithin_eq_ok_iff.mp h
  exact (hsteps.walked hs rfl (.start .start .zero)).content

end Markup

end ComponentTags
