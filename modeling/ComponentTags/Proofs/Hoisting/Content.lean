/-
# Plain contents

A content of text and of variables with attributes that are put out (`Part`).  It is written in two ways: as
it stands in a template, and with every variable replaced by a look-up in the context of the content.  Closing
the first gives the second, and captures the variables (`captureIn_opened`).
-/
import ComponentTags.Proofs.Scope.Targets
import ComponentTags.Proofs.Template.Printed
import ComponentTags.Proofs.Template.Constructs

namespace ComponentTags.Hoisting

open Delimiters (standard)
open Template (Chunk Expr IsParameter Printed writeChunks)
open Template.Reader (constant?)
open ComponentTags.Span (Inside enclosed)

/-! ### Names -/

/-- An identifier of the template language that the tokens of a span take for a single name. -/
structure Identifier where
  /-- The characters of the identifier. -/
  text : Text
  /-- The template language takes the text for a name. -/
  isIdentifier : Text.isIdentifier text = true
  /-- The tokens of a span take the text for a name. -/
  isWord : IsWord text

/-- An identifier that is a variable wherever a variable can be. -/
structure Variable extends Identifier where
  /-- The template language has no other use for the identifier. -/
  notMem_keywords : text ∉ keywords
  /-- Lowering does not make use of the identifier. -/
  not_isReserved : isReserved text = false

namespace Variable

/-- The template language takes a variable for one. -/
lemma isName (x : Variable) : Printed.IsName x.text where
  isIdentifier := x.isIdentifier
  constant? := by
    have hkeywords : ∀ w ∈ (["true", "True", "false", "False", "none", "None"] : List String), w.toList ∈ keywords := by
      decide
    have hne : ∀ w ∈ (["true", "True", "false", "False", "none", "None"] : List String), x.text ≠ w.toList := by
      intro w hw h
      exact x.notMem_keywords (h ▸ hkeywords w hw)
    simp only [List.mem_cons, List.not_mem_nil, or_false, forall_eq_or_imp, forall_eq] at hne
    simp only [constant?, hne, decide_false, Bool.or_self, Bool.false_eq_true, if_false]
  ne_not := fun h => x.notMem_keywords (by rw [h]; decide)

end Variable

/-- A string literal of a word has its quotes around it. -/
lemma stringLiteral_of_isWord {name : Text} (h : IsWord name) : stringLiteral name = '"' :: (name ++ ['"']) := by
  have hplain : ∀ c ∈ name, (c == '\\' || c == '"') = false := by
    intro c hc
    have hword := h.isWordChar c hc
    rw [Bool.or_eq_false_iff]
    constructor
    all_goals
      rw [beq_eq_false_iff_ne]
      rintro rfl
      exact absurd hword (by decide)
  have hsame : name.flatMap (fun c => if c == '\\' || c == '"' then ['\\', c] else [c]) = name := by
    rw [List.flatMap_congr (g := fun c => [c]) fun c hc => by rw [hplain c hc]; rfl]
    exact List.flatMap_singleton' name
  rw [stringLiteral, hsame]
  rfl

/-! ### Paths -/

/-- A variable with attributes. -/
structure Path where
  /-- The variable. -/
  head : Variable
  /-- The attributes, one behind the other. -/
  fields : List Identifier

/-- Attributes as they are written. -/
def writeFields (fields : List Identifier) : Text := fields.flatMap fun f => '.' :: f.text

/-- An expression with attributes behind it. -/
def members (p : Printed) (fields : List Identifier) : Printed :=
  fields.foldl (fun p f => p.member f.text f.isIdentifier) p

lemma text_members (p : Printed) (fields : List Identifier) :
    (members p fields).text = p.text ++ writeFields fields := by
  induction fields generalizing p with
  | nil => simp [members, writeFields]
  | cons f fields ih =>
    have hrest := ih (p.member f.text f.isIdentifier)
    rw [members, List.foldl_cons, ← members, hrest]
    simp [writeFields, Printed.member]

lemma mentions_members (p : Printed) (fields : List Identifier) :
    (members p fields).expr.mentions = p.expr.mentions := by
  induction fields generalizing p with
  | nil => rfl
  | cons f fields ih =>
    rw [members, List.foldl_cons, ← members, ih, Printed.member, Expr.mentions]

lemma isName_contextName : Printed.IsName contextName := ⟨by decide, by decide, by decide⟩

lemma isParameter_contextName : IsParameter contextName := ⟨isName_contextName, by decide⟩

/-- The context of a content, as an expression. -/
def context : Printed := .name contextName isName_contextName

/-- A look-up of a variable in the context of a content. -/
def Variable.lookup (x : Variable) : Printed :=
  if x.text = thisName then context.member "dot" (by decide)
  else if x.text = rootName then context.member "root" (by decide)
  else (context.member "locals" (by decide)).item (.string x.text (Printed.plain_of_isIdentifier x.isIdentifier))

lemma Variable.text_lookup (x : Variable) : x.lookup.text = ComponentTags.lookup x.text := by
  unfold Variable.lookup ComponentTags.lookup
  split
  · rfl
  split
  · rfl
  · simp [Printed.item, Printed.member, Printed.string, context, Printed.name, stringLiteral_of_isWord x.isWord]

/-- A look-up reads the context and nothing else. -/
lemma Variable.mentions_lookup (x : Variable) : x.lookup.expr.mentions = [.reads contextName] := by
  unfold Variable.lookup
  split
  · simp [Printed.member, context, Printed.name, Expr.mentions]
  split
  · simp [Printed.member, context, Printed.name, Expr.mentions]
  · simp [Printed.item, Printed.member, Printed.string, context, Printed.name, Expr.mentions]

variable {isFree : Region → Text → Bool}

/-- The tokens of attributes and of a blank behind them. -/
def fieldTokens (fields : List Identifier) : List Token :=
  fields.flatMap (fun f => [⟨.sign, "."⟩, ⟨.name, f.text⟩]) ++ [⟨.blank, [' ']⟩]

/-- No name goes on with what stands behind it in a path. -/
lemma head?_writeFields (fields : List Identifier) :
    (writeFields fields ++ [' ']).head?.any Text.isWordChar = false := by
  cases fields with
  | nil => exact (by decide : Text.isWordChar ' ' = false)
  | cons f fields => exact (by decide : Text.isWordChar '.' = false)

lemma tokens_writeFields (fields : List Identifier) : tokens (writeFields fields ++ [' ']) = fieldTokens fields := by
  induction fields with
  | nil => with_unfolding_all rfl
  | cons f fields ih =>
    have hsign := tokens_append (endsBefore_sign (c := '.') (by decide) (by decide) (by decide) (by decide) (by decide)
      (f.text ++ (writeFields fields ++ [' '])))
    have hname := tokens_append ((endsBefore_name_iff f.isWord).mpr (head?_writeFields fields))
    rw [hname, ih] at hsign
    simpa [writeFields, fieldTokens] using hsign

/-- No attribute is a variable. -/
lemma markFree_fieldTokens (p : Passed) (fields : List Identifier) :
    markFree isFree p [] (fieldTokens fields) = (fieldTokens fields).map (·, false) := by
  induction fields generalizing p with
  | nil => rfl
  | cons f fields ih =>
    have hfirst : fieldTokens (f :: fields) = ⟨.sign, "."⟩ :: ⟨.name, f.text⟩ :: fieldTokens fields := rfl
    have hsign : markOf isFree p .outer ⟨.sign, "."⟩ (⟨.name, f.text⟩ :: fieldTokens fields) = false := rfl
    have hname : markOf isFree (p.after ⟨.sign, "."⟩) .outer ⟨.name, f.text⟩ (fieldTokens fields) = false := by
      have hselector : (p.after ⟨.sign, "."⟩).beforeSelector = true := rfl
      simp only [markOf, isVariable, hselector, Bool.not_true, Bool.and_false, Bool.false_and]
    rw [hfirst, markFree_significant rfl, markFree_significant rfl, List.tail_nil, List.tail_nil, ih,
      List.headD_nil, hsign, hname]
    rfl

namespace Path

/-- The path as it is written in a template. -/
def opened (x : Path) : Printed := members (.name x.head.text x.head.isName) x.fields

/-- The path with a look-up in the place of its variable. -/
def closed (x : Path) : Printed := members x.head.lookup x.fields

/-- The variable of a path, if it is captured. -/
def captured (x : Path) : List Text := if isCaptured x.head.text then [x.head.text] else []

lemma tokens_opened (x : Path) :
    tokens (spaced x.opened.text) = ⟨.blank, [' ']⟩ :: ⟨.name, x.head.text⟩ :: fieldTokens x.fields := by
  have hhead : (x.head.text ++ (writeFields x.fields ++ [' '])).head?.any Text.isBlank = false := by
    obtain ⟨c, hc, hstart⟩ := x.head.isWord.head? (writeFields x.fields ++ [' '])
    rw [hc]
    exact hstart.1
  have hblank := tokens_append (endsBefore_blank (show Text.isBlank ' ' = true by decide) (List.forall_mem_nil _) hhead)
  have hname := tokens_append ((endsBefore_name_iff x.head.isWord).mpr (head?_writeFields x.fields))
  rw [hname, tokens_writeFields] at hblank
  simpa [spaced, opened, text_members, Printed.name] using hblank

/-- Only the variable of a path is marked. -/
lemma markExpression_opened (x : Path) :
    markExpression [] (tokens (spaced x.opened.text)) =
      (⟨.blank, [' ']⟩, false) :: (⟨.name, x.head.text⟩, true) :: (fieldTokens x.fields).map (·, false) := by
  have hvariable : markOf (fun _ name => !([] : List Text).contains name) {} .outer ⟨.name, x.head.text⟩
      (fieldTokens x.fields) = true := by
    simp [markOf, isVariable, Token.isName, Passed.beforeSelector, x.head.notMem_keywords,
      x.head.not_isReserved]
  rw [tokens_opened, markExpression, markFree_blank (by decide), markFree_significant rfl, List.headD_nil, hvariable,
    List.tail_nil, markFree_fieldTokens]

/-- The variable of a path is replaced by its look-up. -/
lemma replacedText_opened (x : Path) :
    replacedText (markExpression [] (tokens (spaced x.opened.text))) = spaced x.closed.text := by
  have hfields : replacedText ((fieldTokens x.fields).map (·, false)) = writeFields x.fields ++ [' '] := by
    rw [← tokens_writeFields, replacedText, List.flatMap_map]
    exact tokens_join _
  rw [markExpression_opened, replacedText, List.flatMap_cons, List.flatMap_cons, ← replacedText, hfields]
  simp [spaced, closed, text_members, x.head.text_lookup]

lemma capturedNames_opened (x : Path) :
    capturedNames (markExpression [] (tokens (spaced x.opened.text))) = x.captured := by
  have hfields : capturedNames ((fieldTokens x.fields).map (·, false)) = [] := capturedNames_kept _
  rw [markExpression_opened, ← List.singleton_append, capturedNames_append, ← List.singleton_append (l := List.map _ _),
    capturedNames_append, hfields, List.append_nil, captured]
  cases hhead : isCaptured x.head.text <;> simp [capturedNames, hhead]

/-- A path is the body of a single span. -/
lemma isSpan_opened (x : Path) : IsSpan (printing x.opened.text) := by
  have hplain : ∀ c ∈ spaced x.opened.text, IsPlain c := by
    have hword (f : Identifier) : ∀ c ∈ f.text, IsPlain c := fun c hc => isPlain_of_isWordChar (f.isWord.isWordChar c hc)
    intro c hc
    simp only [spaced, opened, text_members, Printed.name, writeFields, List.mem_cons, List.mem_append, List.mem_flatMap,
      List.not_mem_nil, or_false] at hc
    rcases hc with rfl | (hc | ⟨f, -, rfl | hc⟩) | rfl
    · exact ⟨rfl, rfl, rfl, by decide⟩
    · exact hword _ c hc
    · exact ⟨rfl, rfl, rfl, by decide⟩
    · exact hword f c hc
    · exact ⟨rfl, rfl, rfl, by decide⟩
  have hinside : Inside (standard.stop .expression) 0 (spaced x.opened.text) := by
    rw [← List.append_nil (spaced x.opened.text)]
    exact (inside_append_iff .expression hplain).mpr .done
  have hlength := (Span.whole_enclosed hinside (not_isSkipped_expression _)).length_eq []
  rw [List.append_nil] at hlength
  rw [printing_eq]
  exact hlength

end Path

/-! ### Contents -/

/-- A part of a content. -/
inductive Part where
  /-- Text without tags, spans and line ends of other systems. -/
  | text (t : Text) (plain : ∀ c ∈ t, c ∉ ['<', '\x7b', '\r'])
  /-- A span with a path. -/
  | path (x : Path)

namespace Part

lemma isText {t : Text} (plain : ∀ c ∈ t, c ∉ ['<', '\x7b', '\r']) : ∀ c ∈ t, c ≠ '\x7b' ∧ c ≠ '\r' := by
  intro c hc
  have hplain := plain c hc
  simp only [List.mem_cons, List.not_mem_nil, or_false, not_or] at hplain
  exact hplain.2

/-- The part as it stands in a template. -/
def opened : Part → Chunk
  | text t plain => .text t (isText plain)
  | path x => .value x.opened

/-- The part with a look-up in the place of its variable. -/
def closed : Part → Chunk
  | text t plain => .text t (isText plain)
  | path x => .value x.closed

/-- The variables that a part captures. -/
def captured : Part → List Text
  | text .. => []
  | path x => x.captured

lemma captureIn_text {t : Text} (h : '\x7b' ∉ t) (s : Scope) : captureIn standard s t = .ok ⟨t, [], s⟩ := by
  have hsplits : Splits t (t.map fun c => .verbatim [c]) := by
    induction t with
    | nil => exact .nil
    | cons c t ih =>
      rw [List.mem_cons, not_or] at h
      refine .character ?_ (ih h.2)
      by_contra hkind
      obtain ⟨kind, hkind⟩ := Option.ne_none_iff_exists'.mp hkind
      have hbegins := Span.kindAt?_eq_some_iff.mp hkind
      cases kind <;> exact h.1 (List.cons_prefix_cons.mp hbegins).1
  refine captureIn_eq_ok_iff.mpr ⟨_, hsplits, ?_⟩
  clear hsplits
  induction t with
  | nil => rfl
  | cons c t ih =>
    rw [List.mem_cons, not_or] at h
    rw [List.map_cons, capturePieces, capturePiece, ← ih h.2]
    rfl

/-- A part is closed by itself, where no name is bound. -/
lemma captureIn_opened (part : Part) :
    captureIn standard ⟨[], []⟩ part.opened.write = .ok ⟨part.closed.write, part.captured, ⟨[], []⟩⟩ := by
  cases part with
  | text t plain => exact captureIn_text (fun hc => (isText plain _ hc).1 rfl) _
  | path x =>
    have hclosed := captureIn_of_isSpan (printing_eq x.opened.text ▸ x.isSpan_opened) (signed_spaced _)
      (not_isSkipped_expression _) ⟨[], []⟩
    have hmark : markSpan ⟨[], []⟩ .expression (spaced x.opened.text) =
        markExpression [] (tokens (spaced x.opened.text)) := rfl
    have hscope : scopeBehind ⟨[], []⟩ .expression (spaced x.opened.text) = ⟨[], []⟩ := rfl
    rw [← printing_eq, hmark, hscope, x.replacedText_opened, x.capturedNames_opened, ← printing_eq] at hclosed
    simpa [Part.opened, Part.closed, Part.captured, Chunk.write, printing] using hclosed

end Part

/-- What can stand between the tags of a component or be left without them. -/
abbrev Content := List Part

namespace Content

/-- A content as it stands in a template. -/
def opened (c : Content) : List Chunk := c.map Part.opened

/-- A content with look-ups in the place of its variables. -/
def closed (c : Content) : List Chunk := c.map Part.closed

/-- The variables that a content captures. -/
def captured (c : Content) : List Text := c.flatMap Part.captured

/-- A content that has been closed reads its context and nothing else, whatever names its variables have. -/
lemma mem_mentions_closed {c : Content} {m : Mention} (h : m ∈ c.closed.flatMap Chunk.mentions) :
    m = .reads contextName := by
  rw [closed, List.flatMap_map] at h
  obtain ⟨part, -, hm⟩ := List.mem_flatMap.mp h
  cases part with
  | text t plain => cases hm
  | path x =>
    have hmentions : (Part.path x).closed.mentions = [.reads contextName] :=
      (mentions_members x.head.lookup x.fields).trans x.head.mentions_lookup
    rw [hmentions] at hm
    exact List.mem_singleton.mp hm

/-- A content is closed part by part. -/
theorem captureIn_opened (c : Content) :
    captureIn standard ⟨[], []⟩ (writeChunks c.opened) = .ok ⟨writeChunks c.closed, c.captured, ⟨[], []⟩⟩ := by
  induction c with
  | nil => exact captureIn_eq_ok_iff.mpr ⟨[], .nil, rfl⟩
  | cons part c ih =>
    have hlast : part.opened.write.getLast? ≠ some '\x7b' := by
      cases part with
      | text t plain => exact fun hlast => (Part.isText plain _ (List.mem_of_getLast? hlast)).1 rfl
      | path x =>
        have hbrace : (" \x7d\x7d" : Text).getLast? = some '\x7d' := rfl
        rw [Part.opened, Chunk.write, List.getLast?_append, hbrace, Option.some_or]
        decide
    exact (captureIn_append part.captureIn_opened hlast).mpr ⟨_, ih, rfl⟩

end Content

end ComponentTags.Hoisting
