/-
# Templates without other markup

Text in which no tag begins outside of spans stays raw (`parse_of_isRaw`), and a component around such text is
read as one component with at most one raw node in it (`parse_component`).
-/
import ComponentTags.Proofs.Markup.Steps
import ComponentTags.Proofs.Scope.Crossed
import ComponentTags.Proofs.Scope.Single

namespace ComponentTags

open Delimiters (standard)
open ComponentTags.Span (Whole)

namespace Markup

/-! ### Raw text -/

/-- A text consists of whole spans and of characters that begin no tag. -/
inductive IsRaw : Text → Prop
  | nil : IsRaw []
  | character {c : Char} {text : Text} (hc : c ≠ '<' ∧ c ≠ '\x7b') (next : IsRaw text) : IsRaw (c :: text)
  | span {kind : SpanKind} {span text : Text} (hwhole : Whole kind span) (next : IsRaw text) : IsRaw (span ++ text)

variable {s : Setting} {levels place : Nat} {opened : Option Text} {span text more behind : Text}

namespace IsRaw

lemma append (h : IsRaw text) (hmore : IsRaw more) : IsRaw (text ++ more) := by
  induction h with
  | nil => exact hmore
  | character hc _ ih => exact .character hc ih
  | span hwhole _ ih =>
    rw [List.append_assoc]
    exact .span hwhole ih

lemma of_forall (h : ∀ c ∈ text, c ≠ '<' ∧ c ≠ '\x7b') : IsRaw text := by
  induction text with
  | nil => exact .nil
  | cons c text ih => exact .character (h c (.head _)) (ih fun d hd => h d (.tail _ hd))

lemma of_whole {kind : SpanKind} (h : Whole kind span) : IsRaw span := by
  rw [← List.append_nil span]
  exact .span h .nil

/-- The progress when a text is held back. -/
lemma pass_append (text behind held : Text) (nodes : List Node) (deferred : List Text) :
    Progress.pass ⟨place, held, nodes, deferred, text ++ behind⟩ text.length =
      ⟨place + text.length, text.reverse ++ held, nodes, deferred, behind⟩ := by
  rw [Progress.pass, hold, List.take_left' rfl, List.drop_left' rfl, List.reverseAux_eq]

/-- A whole span is passed. -/
lemma passes_whole (hs : s.delimiters = standard) {kind : SpanKind} (h : Whole kind span) :
    Passes s opened (span ++ behind) span.length := by
  have hkind := h.kindAt?_eq behind
  have hlength := h.length_eq behind
  cases span with
  | nil =>
    have hbegins := Span.kindAt?_eq_some_iff.mp (h.kindAt?_eq [])
    cases kind <;> cases List.prefix_nil.mp hbegins
  | cons c span =>
    rw [← hs] at hkind hlength
    exact .span (Option.isSome_of_eq_some hkind) hlength

/-- Raw text is held back. -/
lemma steps (hs : s.delimiters = standard) (h : IsRaw text) {held : Text} {nodes : List Node} {deferred : List Text} :
    Steps s levels opened ⟨place, held, nodes, deferred, text ++ behind⟩
      ⟨place + text.length, text.reverse ++ held, nodes, deferred, behind⟩ := by
  induction h generalizing place held with
  | nil => exact .refl
  | @character c text hc _ ih =>
    have hspan : NoSpan s.delimiters (c :: (text ++ behind)) := by
      rw [NoSpan, hs, kindAt?_eq_none_of_ne hc.2]
      exact Bool.false_ne_true
    refine .pass (n := 1) (.character hspan hc.1) ?_
    rw [List.length_cons, Nat.add_comm text.length, ← Nat.add_assoc, List.reverse_cons, List.append_assoc]
    exact ih
  | @span kind span text hwhole _ ih =>
    rw [List.append_assoc]
    refine .pass (passes_whole hs hwhole) ?_
    rw [pass_append, List.length_append, List.reverse_append, List.append_assoc, ← Nat.add_assoc]
    exact ih

end IsRaw

variable {components : List Text} {name : Option Text}

/-- The nodes of raw text: there is none for the empty text. -/
def rawNodes (text : Text) : List Node := if text.isEmpty then [] else [.raw text]

lemma flush_eq (text : Text) (nodes : List Node) : flush text.reverse nodes = rawNodes text ++ nodes := by
  unfold flush rawNodes
  rw [List.isEmpty_reverse, List.reverse_reverse]
  split <;> rfl

lemma reverse_rawNodes (text : Text) : (rawNodes text).reverse = rawNodes text := by
  unfold rawNodes
  split <;> rfl

/-- Raw text is a single raw node. -/
theorem parse_of_isRaw (h : IsRaw text) :
    parseWithin levels text components standard name = .ok ⟨rawNodes text, []⟩ := by
  have hsteps : Steps (settingFor text components standard) levels none ⟨0, [], [], [], text ++ []⟩
      ⟨0 + text.length, text.reverse ++ [], [], [], []⟩ := h.steps rfl
  rw [List.append_nil, List.append_nil] at hsteps
  refine parseWithin_eq_ok_iff.mpr ⟨_, hsteps, rfl, ?_⟩
  rw [Progress.content, flush_eq, List.append_nil, reverse_rawNodes]
  rfl

/-! ### A component -/

variable {tag : Text}

lemma not_endsTagName_of_isWord (h : IsWord tag) : ∀ c ∈ tag, endsTagName c = false := by
  intro c hc
  have hword := h.isWordChar c hc
  have hne : ∀ d, Text.isWordChar d = false → c ≠ d := by
    rintro d hd rfl
    exact absurd (hword.symm.trans hd) (by decide)
  have hblank : Text.isBlank c = false := by
    rw [Bool.eq_false_iff]
    intro hblank
    rw [isWordChar_of_isBlank hblank] at hword
    cases hword
  simp [endsTagName, hblank, hne '>' (by decide), hne '/' (by decide)]

/-- The tag of a component without attributes. -/
lemma opensComponent_of_isWord (hs : s.delimiters = standard) (hword : IsWord tag) (hname : isComponentName tag = true)
    (hknown : tag ∈ s.components) : OpensComponent s (tag ++ '>' :: behind) tag ⟨[], 1, false⟩ where
  tag := {
    no_span := by
      rw [NoSpan, hs, kindAt?_eq_none_of_ne (by decide)]
      exact Bool.false_ne_true
    letter := by
      obtain ⟨⟨-, -, -, hletter⟩, -⟩ := hword
      rcases Bool.or_eq_true_iff.mp hletter with hletter | hletter
      · exact hletter
      · rw [eq_of_beq hletter] at hname
        exact absurd (show Text.isUpper '_' = true from hname) (by decide)
    name_eq := by
      rw [List.takeWhile_append_of_pos fun c hc => by rw [not_endsTagName_of_isWord hword c hc]; rfl]
      exact List.append_nil tag
    attributes_eq := by
      rw [List.drop_left' rfl, attributes]
      rfl }
  name_capital := hname
  known := hknown

lemma trim_of_isWord (hword : IsWord tag) : Text.trim tag = tag := by
  have hblank : ∀ c ∈ tag, ¬Text.isBlank c = true := by
    intro c hc hblank
    have hends := not_endsTagName_of_isWord hword c hc
    rw [endsTagName, hblank, Bool.true_or, Bool.true_or] at hends
    cases hends
  have hstart : tag.dropWhile Text.isBlank = tag :=
    List.dropWhile_eq_self_iff.mpr fun hlength => hblank _ (List.getElem_mem hlength)
  have hend : tag.reverse.dropWhile Text.isBlank = tag.reverse :=
    List.dropWhile_eq_self_iff.mpr fun hlength => hblank _ (List.mem_reverse.mp (List.getElem_mem hlength))
  rw [Text.trim, Text.trimStart, hstart, Text.trimEnd, hend, List.reverse_reverse]

/-- The first occurrence of a character is behind a text without it. -/
lemma indexFrom_append {c : Char} (h : c ∉ text) (skipped : Nat) (behind : Text) :
    Text.indexFrom [c] skipped (text ++ c :: behind) = some (skipped + text.length) := by
  induction text generalizing skipped with
  | nil => simp [Text.indexFrom]
  | cons x text ih =>
    rw [List.mem_cons, not_or] at h
    have hno : ¬[c].isPrefixOf (x :: (text ++ c :: behind)) = true := by simpa using h.1
    rw [List.cons_append, Text.indexFrom, if_neg hno, ih h.2, List.length_cons, Nat.add_assoc, Nat.add_comm 1]

lemma closes_of_isWord (hword : IsWord tag) :
    Closes standard tag ('<' :: '/' :: (tag ++ '>' :: behind)) (2 + (tag.length + 1)) := by
  refine .intro ?_ ?_
  · rw [NoSpan, kindAt?_eq_none_of_ne (by decide)]
    exact Bool.false_ne_true
  · have hend : '>' ∉ tag := fun hc => absurd (not_endsTagName_of_isWord hword _ hc) (by decide)
    have hindex : Text.index? ">" (tag ++ '>' :: behind) = some tag.length := by
      have hfrom := indexFrom_append hend 0 behind
      rwa [Nat.zero_add] at hfrom
    rw [closingTag, hindex]
    simp only [List.take_left' rfl, trim_of_isWord hword]

/-- A component around raw text becomes a node. -/
lemma steps_component (hs : s.delimiters = standard) {content back held : Text} {nodes : List Node}
    {deferred : List Text} (hcontent : IsRaw content) (hword : IsWord tag) (hname : isComponentName tag = true)
    (hknown : tag ∈ s.components) :
    ∃ place', Steps s (levels + 1) opened
      ⟨place, held, nodes, deferred, '<' :: (tag ++ '>' :: (content ++ '<' :: '/' :: (tag ++ '>' :: back)))⟩
      ⟨place', [], .component tag [] (rawNodes content) false place :: flush held nodes, deferred, back⟩ := by
  let inside : Text := content ++ '<' :: '/' :: (tag ++ '>' :: back)
  let count := tagLength tag ⟨[], 1, false⟩
  have hcount : count = ('<' :: (tag ++ ['>'])).length := by simp [count, tagLength]
  have hinside : ('<' :: (tag ++ '>' :: inside)).drop count = inside := by
    rw [hcount, show '<' :: (tag ++ '>' :: inside) = '<' :: (tag ++ ['>']) ++ inside by simp, List.drop_left' rfl]
  let whole := place + count + content.length + (2 + (tag.length + 1)) - place
  have hbehind : ('<' :: (tag ++ '>' :: inside)).drop whole = back := by
    have hlength : whole = ('<' :: (tag ++ '>' :: (content ++ '<' :: '/' :: (tag ++ ['>'])))).length := by
      simp [whole, hcount]
      omega
    rw [hlength, show '<' :: (tag ++ '>' :: inside) =
      '<' :: (tag ++ '>' :: (content ++ '<' :: '/' :: (tag ++ ['>']))) ++ back by simp [inside], List.drop_left' rfl]
  -- the content is read up to the closing tag, which ends the component
  have hread : Steps s levels (some tag) ⟨place + count, [], [], [], inside⟩
      ⟨place + count + content.length, content.reverse ++ [], [], [], '<' :: '/' :: (tag ++ '>' :: back)⟩ :=
    hcontent.steps hs
  have hclose : Closes s.delimiters tag ('<' :: '/' :: (tag ++ '>' :: back)) (2 + (tag.length + 1)) := by
    rw [hs]
    exact closes_of_isWord hword
  refine ⟨place + whole, .component rfl
    (opensComponent_of_isWord hs hword hname hknown) rfl (by rw [hinside]; exact hread) hclose ?_⟩
  rw [Progress.add, hbehind, Progress.content, List.append_nil, flush_eq, List.append_nil, reverse_rawNodes,
    List.append_nil]
  exact .refl

/-- A component around raw text, with raw text in front of it and behind it. -/
theorem parse_component (levels : Nat) (name : Option Text) {front content back : Text} (hfront : IsRaw front) (hcontent : IsRaw content) (hback : IsRaw back)
    (hword : IsWord tag) (hname : isComponentName tag = true) (hknown : tag ∈ components) :
    parseWithin (levels + 1) (front ++ '<' :: (tag ++ '>' :: (content ++ '<' :: '/' :: (tag ++ '>' :: back)))) components standard name =
      .ok ⟨rawNodes front ++ .component tag [] (rawNodes content) false front.length :: rawNodes back, []⟩ := by
  let behind : Text := '<' :: (tag ++ '>' :: (content ++ '<' :: '/' :: (tag ++ '>' :: back)))
  let s := settingFor (front ++ behind) components standard
  let node : Node := .component tag [] (rawNodes content) false front.length
  have hfirst : Steps s (levels + 1) none ⟨0, [], [], [], front ++ behind⟩
      ⟨0 + front.length, front.reverse ++ [], [], [], behind⟩ := hfront.steps rfl
  rw [List.append_nil, Nat.zero_add] at hfirst
  obtain ⟨place, hcomponent⟩ : ∃ place, Steps s (levels + 1) none ⟨front.length, front.reverse, [], [], behind⟩
      ⟨place, [], node :: flush front.reverse [], [], back⟩ := steps_component rfl hcontent hword hname hknown
  rw [flush_eq, List.append_nil] at hcomponent
  have hlast : Steps s (levels + 1) none ⟨place, [], node :: rawNodes front, [], back ++ []⟩
      ⟨place + back.length, back.reverse ++ [], node :: rawNodes front, [], []⟩ := hback.steps rfl
  rw [List.append_nil, List.append_nil] at hlast
  refine parseWithin_eq_ok_iff.mpr ⟨_, hfirst.trans (hcomponent.trans hlast), rfl, ?_⟩
  rw [Progress.content, flush_eq]
  simp [node, reverse_rawNodes]

end Markup

end ComponentTags
