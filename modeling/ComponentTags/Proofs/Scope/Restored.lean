/-
# Reading back a closed text

Closing content puts look-ups in the places of names and changes nothing else.  Content that does not
have the name of the context in it is therefore read back from what it becomes: every look-up is taken
for the name that it stands for, and every other character for itself (`captureNodes_restored`).  The
captured names are those of the look-ups that are read, in their order.

A closed text is read from the front, without a view of the text that it comes from.  At each place there
is a look-up or there is none.  A look-up is delimited by its own characters, so what follows it does not
matter, and the name of the context begins nowhere else, since its other letters are not changed by
closing (`Spliced.exists_behind`).
-/
import ComponentTags.Proofs.Scope.Composition
import ComponentTags.Proofs.Scope.Spliced

namespace ComponentTags

open Delimiters (standard)

/-! ### The segments of a closed text -/

/-- A segment of a closed text. -/
inductive Segment where
  /-- A character. -/
  | char (c : Char)
  /-- The look-up of the component itself. -/
  | this
  /-- The look-up of the rendered component. -/
  | root
  /-- The look-up of a captured variable. -/
  | captured (name : Text)
deriving DecidableEq, Repr

namespace Segment

/-- The characters of a segment. -/
def text : Segment → Text
  | char c => [c]
  | this => contextName ++ ".dot"
  | root => contextName ++ ".root"
  | captured name => contextName ++ ".locals[\"" ++ name ++ "\"]"

/-- The text that a segment stands for. -/
def original : Segment → Text
  | char c => [c]
  | this => thisName
  | root => rootName
  | captured name => name

/-- The captured variable that a segment looks up. -/
def captured? : Segment → Option Text
  | captured name => some name
  | _ => none

/-- The name in the look-up of a captured variable that begins a text: it ends at the first quote. -/
def nameIn (text : Text) : Text :=
  (text.drop (contextName ++ ".locals[\"").length).takeWhile (· ≠ '"')

/-- The look-up that begins a text. -/
def lookup? (text : Text) : Option Segment :=
  if this.text.isPrefixOf text then some this
  else if root.text.isPrefixOf text then some root
  else if (captured (nameIn text)).text.isPrefixOf text then some (captured (nameIn text))
  else none

/-- The look-up that stands for a name. -/
def ofName (name : Text) : Segment :=
  if name = thisName then this else if name = rootName then root else captured name

end Segment

/-- The segments of a closed text. -/
def segments : Text → List Segment
  | [] => []
  | c :: rest =>
    match Segment.lookup? (c :: rest) with
    | none => .char c :: segments rest
    | some e => e :: segments (rest.drop (e.text.length - 1))
termination_by text => text.length
decreasing_by all_goals (simp only [List.length_cons, List.length_drop]; omega)

/-- A closed text with every look-up replaced by what it stands for. -/
def restored (text : Text) : Text := (segments text).flatMap Segment.original

/-- The captured variables that a closed text looks up, each as often as it does so. -/
def lookedUp (text : Text) : List Text := (segments text).filterMap Segment.captured?

/-! #### Look-ups -/

variable {name rest : Text}

lemma text_ofName (name : Text) : (Segment.ofName name).text = lookup name := by
  unfold Segment.ofName lookup
  split
  · rfl
  split <;> rfl

lemma original_ofName (name : Text) : (Segment.ofName name).original = name := by
  unfold Segment.ofName
  split
  · rename_i hthis
    exact hthis.symm
  split
  · rename_i hroot
    exact hroot.symm
  · rfl

lemma captured?_ofName (name : Text) :
    (Segment.ofName name).captured?.toList = [name].filter isCaptured := by
  unfold Segment.ofName
  split
  · rename_i hthis
    simp [Segment.captured?, isCaptured, hthis]
  split
  · rename_i hroot
    simp [Segment.captured?, isCaptured, hroot]
  · rename_i hthis hroot
    simp [Segment.captured?, isCaptured, hthis, hroot]

lemma isPrefixOf_text (e : Segment) : e.text.isPrefixOf (e.text ++ rest) = true :=
  List.isPrefixOf_iff_prefix.mpr (List.prefix_append _ _)

lemma nameIn_captured (hquote : '"' ∉ name) :
    Segment.nameIn ((Segment.captured name).text ++ rest) = name := by
  have htext : (Segment.captured name).text ++ rest =
      (contextName ++ ".locals[\"") ++ (name ++ ('"' :: ']' :: rest)) := by
    simp [Segment.text]
  rw [Segment.nameIn, htext, List.drop_left, List.takeWhile_append_of_pos,
    List.takeWhile_cons_of_neg (by simp), List.append_nil]
  intro c hc
  rw [decide_eq_true_eq]
  rintro rfl
  exact hquote hc

/-- A look-up in front of any text is read. -/
lemma lookup?_lookup (hword : IsWord name) :
    Segment.lookup? (lookup name ++ rest) = some (Segment.ofName name) := by
  rw [← text_ofName, Segment.lookup?]
  unfold Segment.ofName
  split
  · rw [if_pos (isPrefixOf_text _)]
  split
  · rw [if_neg, if_pos (isPrefixOf_text _)]
    exact Bool.false_ne_true
  · have hquote : '"' ∉ name := fun hmem => absurd (hword.isWordChar _ hmem) (by decide)
    rw [if_neg, if_neg, nameIn_captured hquote, if_pos (isPrefixOf_text _)]
    · exact Bool.false_ne_true
    · exact Bool.false_ne_true

/-- Every look-up begins with the name of the context. -/
lemma contextName_prefix_of_lookup? {text : Text} {e : Segment}
    (h : Segment.lookup? text = some e) : contextName <+: text := by
  have hbegins : ∀ word : Text, (contextName ++ word).isPrefixOf text = true →
      contextName <+: text := by
    intro word hword
    exact (List.prefix_append _ _).trans (List.isPrefixOf_iff_prefix.mp hword)
  unfold Segment.lookup? at h
  split at h
  · rename_i hthis
    exact hbegins _ hthis
  split at h
  · rename_i hroot
    exact hbegins _ hroot
  split at h
  · rename_i hcaptured
    rw [Segment.text, List.append_assoc, List.append_assoc] at hcaptured
    exact hbegins _ hcaptured
  · cases h

lemma segments_lookup (hword : IsWord name) :
    segments (lookup name ++ rest) = Segment.ofName name :: segments rest := by
  have hlookup : Segment.lookup? (lookup name ++ rest) = _ := lookup?_lookup hword
  have hlength := congrArg List.length (text_ofName name)
  obtain ⟨more, hmore⟩ : ∃ more, lookup name = 'g' :: more :=
    List.head?_eq_some_iff.mp (head?_lookup name)
  rw [hmore, List.cons_append] at hlookup ⊢
  rw [hmore, List.length_cons] at hlength
  rw [segments, hlookup]
  simp only [hlength, Nat.add_sub_cancel, List.drop_left]

/-! ### Texts -/

/-- A text with names replaced is read back if the name of the context was not in it. -/
lemma Replaces.restored_eq {kind : TokenKind} {names : List Text} {v v' : Text} (h : Replaces kind names v v')
    (hno : ¬contextName <:+: v) : restored v' = v ∧ lookedUp v' = names := by
  induction h with
  | nil => simp [restored, lookedUp, segments]
  | @char kind names c v v' h ih =>
    have hnone : Segment.lookup? (c :: v') = none := by
      by_contra hsome
      obtain ⟨e, he⟩ := Option.ne_none_iff_exists'.mp hsome
      -- the name of the context would have stood there before
      obtain ⟨more, hmore⟩ := contextName_prefix_of_lookup? he
      obtain ⟨rfl, rfl⟩ := List.cons.inj (hmore : 'g' :: ("lam__ctx" ++ more) = c :: v')
      have hspliced : Spliced names _ v ("lam__ctx" ++ more) := h.spliced fun _ hn => hn
      obtain ⟨other, rfl, -⟩ := hspliced.exists_behind (by decide)
      exact hno (List.prefix_append contextName other).isInfix
    obtain ⟨hrestored, hlooked⟩ := ih fun hmet => hno (hmet.trans (List.suffix_cons c v).isInfix)
    simp only [restored, lookedUp] at hrestored hlooked ⊢
    rw [segments, hnone]
    exact ⟨congrArg (c :: ·) hrestored, hlooked⟩
  | @name kind names n v v' hword _ _ _ _ ih =>
    obtain ⟨hrestored, hlooked⟩ := ih fun hmet => hno (hmet.trans (List.suffix_append n v).isInfix)
    simp only [restored, lookedUp] at hrestored hlooked ⊢
    rw [segments_lookup hword, List.flatMap_cons, original_ofName, hrestored, ← captured?_ofName,
      ← hlooked]
    refine ⟨rfl, ?_⟩
    cases hcaptured : (Segment.ofName n).captured? <;> simp [hcaptured]

/-! ### Nodes -/

/-- The texts of a node apart from those below it. -/
def Node.texts : Node → List Text
  | .raw content => [content]
  | .component _ attributes _ _ _ => attributes.map Prod.snd

/-- The texts of some nodes and below them, the attributes of a component in front of its children. -/
def textsIn (nodes : List Node) : List Text := (Node.walk nodes).flatMap Node.texts

mutual

/-- A node with its texts read back. -/
def restoredNode : Node → Node
  | .raw content => .raw (restored content)
  | .component tag attributes children selfClosing offset =>
    .component tag (attributes.map fun (key, value) => (key, restored value))
      (restoredNodes children) selfClosing offset

/-- Nodes with their texts read back. -/
def restoredNodes : List Node → List Node
  | [] => []
  | node :: rest => restoredNode node :: restoredNodes rest

end

@[simp] lemma textsIn_nil : textsIn [] = [] := rfl

@[simp] lemma textsIn_raw (content : Text) (rest : List Node) :
    textsIn (.raw content :: rest) = content :: textsIn rest := by
  simp [textsIn, Node.walk, Node.withDescendants, Node.texts]

@[simp] lemma textsIn_component (tag : Text) (attributes : Table Text Text)
    (children rest : List Node) (selfClosing : Bool) (offset : Int) :
    textsIn (.component tag attributes children selfClosing offset :: rest) =
      attributes.map Prod.snd ++ (textsIn children ++ textsIn rest) := by
  simp [textsIn, Node.walk, Node.withDescendants, Node.texts]

/-- Closed attributes are read back. -/
lemma captureAttributes_restored {bound : List Text} {entries closed : Table Text Text}
    {captured : List Text} (hno : ∀ text ∈ entries.map Prod.snd, ¬contextName <:+: text)
    (h : captureAttributes standard bound entries = .ok (closed, captured)) :
    closed.map (fun (key, value) => (key, restored value)) = entries ∧
      captured = (closed.map Prod.snd).flatMap lookedUp := by
  induction entries generalizing closed captured with
  | nil =>
    cases h
    exact ⟨rfl, rfl⟩
  | cons entry rest ih =>
    obtain ⟨key, value⟩ := entry
    simp only [List.map_cons, List.forall_mem_cons] at hno
    rw [captureAttributes] at h
    split at h
    · cases h
    rename_i r hr
    split at h
    · cases h
    rename_i more inMore hmore
    cases h
    obtain ⟨hvalue, hlooked⟩ := (replaces_captureIn hr .sign).restored_eq hno.1
    obtain ⟨hrest, rfl⟩ := ih hno.2 hmore
    simp [hvalue, hlooked, hrest]

/-- Closed nodes are read back. -/
lemma captureFrom_restored {s : Scope} {nodes closed : List Node} {captured : List Text}
    (hno : ∀ text ∈ textsIn nodes, ¬contextName <:+: text)
    (h : captureFrom standard s nodes = .ok (closed, captured)) :
    restoredNodes closed = nodes ∧ captured = (textsIn closed).flatMap lookedUp := by
  fun_induction captureFrom standard s nodes generalizing closed captured with
  | case1 =>
    cases h
    exact ⟨rfl, rfl⟩
  | case2 | case3 | case5 | case6 | case7 => cases h
  | case4 s content rest r hr nodes inRest hrest ih =>
    cases h
    rw [textsIn_raw, List.forall_mem_cons] at hno
    obtain ⟨hcontent, hlooked⟩ := (replaces_captureIn hr .sign).restored_eq hno.1
    obtain ⟨hnodes, rfl⟩ := ih hno.2 hrest
    simp [restoredNodes, restoredNode, hcontent, hlooked, hnodes]
  | case8 s tag attributes children selfClosing offset rest entries inAttributes hattributes inner
      inChildren hchildren nodes inRest hrest ihChildren ihRest =>
    cases h
    simp only [textsIn_component, List.forall_mem_append] at hno
    obtain ⟨hentries, rfl⟩ := captureAttributes_restored hno.1 hattributes
    obtain ⟨hinner, rfl⟩ := ihChildren hno.2.1 hchildren
    obtain ⟨hnodes, rfl⟩ := ihRest hno.2.2 hrest
    simp [restoredNodes, restoredNode, hentries, hinner, hnodes]

/-- Closing nodes only puts look-ups in the places of names.  If the name of the context is in none of
the texts, the nodes are what is read back from the closed nodes.  The captured names are those that are
looked up there, each once and in the order of their first look-up, and none of them is bound. -/
theorem captureNodes_restored {nodes closed : List Node} {bound captured : List Text}
    (hno : ∀ text ∈ textsIn nodes, ¬contextName <:+: text)
    (h : captureNodes nodes bound = .ok (closed, captured)) :
    restoredNodes closed = nodes ∧ captured = ((textsIn closed).flatMap lookedUp).eraseDups ∧
      ∀ n ∈ captured, n ∉ bound := by
  unfold captureNodes at h
  split at h
  · cases h
  rename_i all hclosed
  cases h
  obtain ⟨hnodes, hall⟩ := captureFrom_restored hno hclosed
  refine ⟨hnodes, by rw [hall], fun n hn => ?_⟩
  -- the names captured where nothing is bound, without those that are bound
  have hadds : Scope.Adds bound ⟨[], []⟩ ⟨bound, []⟩ := ⟨rfl, by simp⟩
  obtain ⟨_, _, -, -, hfilter⟩ := captureFrom_composes hadds hclosed
  rw [List.mem_eraseDups, hfilter] at hn
  simpa using (List.mem_filter.mp hn).2

/-- A component in a loop. -/
def cardNodes : List Node :=
  [.raw "\x7b% for i in xs %\x7d",
    .component "Card" [("title", "\x7b\x7b i ~ x \x7d\x7d")] [.raw "\x7b\x7b this.y ~ y \x7d\x7d"]
      false 17]

/-- The component in a loop closed where `y` is bound. -/
def closedCardNodes : List Node :=
  [.raw "\x7b% for i in glam__ctx.locals[\"xs\"] %\x7d",
    .component "Card" [("title", "\x7b\x7b i ~ glam__ctx.locals[\"x\"] \x7d\x7d")]
      [.raw "\x7b\x7b glam__ctx.dot.y ~ y \x7d\x7d"] false 17]

theorem captureNodes_restored_card :
    (∀ text ∈ textsIn cardNodes, ¬contextName <:+: text) ∧
      captureNodes cardNodes ["y"] = .ok (closedCardNodes, ["xs", "x"]) ∧
      restoredNodes closedCardNodes = cardNodes ∧
      [("xs" : Text), "x"] = ((textsIn closedCardNodes).flatMap lookedUp).eraseDups ∧
      ∀ n ∈ [("xs" : Text), "x"], n ∉ [("y" : Text)] := by
  have hno : ∀ text ∈ textsIn cardNodes, ¬contextName <:+: text := by decide +kernel
  have hclosed : captureNodes cardNodes ["y"] = .ok (closedCardNodes, ["xs", "x"]) := by
    have hloop : captureIn standard ⟨["y"], []⟩ "\x7b% for i in xs %\x7d" =
        .ok ⟨"\x7b% for i in glam__ctx.locals[\"xs\"] %\x7d", ["xs"],
          ⟨["y"], [⟨"endfor", ["i", "loop"]⟩]⟩⟩ := by
      with_unfolding_all rfl
    have htitle : captureIn standard ⟨["i", "loop", "y"], []⟩ "\x7b\x7b i ~ x \x7d\x7d" =
        .ok ⟨"\x7b\x7b i ~ glam__ctx.locals[\"x\"] \x7d\x7d", ["x"], ⟨["i", "loop", "y"], []⟩⟩ := by
      with_unfolding_all rfl
    have hcontent : captureIn standard ⟨["i", "loop", "y"], []⟩ "\x7b\x7b this.y ~ y \x7d\x7d" =
        .ok ⟨"\x7b\x7b glam__ctx.dot.y ~ y \x7d\x7d", [], ⟨["i", "loop", "y"], []⟩⟩ := by
      with_unfolding_all rfl
    have hnames : Scope.names ⟨["y"], [⟨"endfor", ["i", "loop"]⟩]⟩ = [("i" : Text), "loop", "y"] := rfl
    simp only [cardNodes, captureNodes, captureFrom, captureAttributes, hloop, hnames, htitle,
      hcontent]
    rfl
  exact ⟨hno, hclosed, captureNodes_restored hno hclosed⟩

end ComponentTags
