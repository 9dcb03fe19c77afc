/-
# Pages with a loop

A page puts out plain contents for every item of a variable (`Page`).  The middle one of them can be put between
the tags of a component.  Compiling the page as it stands keeps its text (`compile_inline`); with the tags, the
content becomes a macro and the loop calls the function that renders components (`compile_hoisted`).
-/
import ComponentTags.Compile
import ComponentTags.Proofs.Hoisting.Content
import ComponentTags.Proofs.Lowered.Steps
import ComponentTags.Proofs.Markup.Plain
import Mathlib.Data.Bool.AllAny

namespace ComponentTags.Hoisting

open Delimiters (standard)
open Markup (IsRaw rawNodes)
open Template (Chunk Construct Expr Printed writeChunks writeConstructs)
open ComponentTags.Span (Inside Whole enclosed)

/-! ### Pages -/

/-- A loop over the items of a variable that puts out plain contents. -/
structure Page where
  /-- The variable that the loop sets. -/
  target : Variable
  /-- The loop does not hide the component, the rendered component or its own state. -/
  target_notMem : target.text ∉ [thisName, rootName, Template.loopName]
  /-- The variable with the items. -/
  items : Variable
  /-- What is put out in front of the content. -/
  front : Content
  /-- The content. -/
  content : Content
  /-- What is put out behind the content. -/
  back : Content

namespace Page

lemma isTarget (p : Page) : Template.IsTarget p.target.text where
  toIsName := p.target.isName
  ne_in := fun h => p.target.notMem_keywords (by rw [h]; decide)
  ne_loop := fun h => p.target_notMem (by rw [h]; decide)

lemma isItems (p : Page) : Template.IsItems p.items.text where
  toIsName := p.items.isName
  ne_recursive := fun h => p.items.notMem_keywords (by rw [h]; decide)

/-- The loop with something in the place of the content. -/
def loop (p : Page) (inner : List Chunk) : Construct :=
  .loop p.target.text p.items.text p.isTarget p.isItems (p.front.opened ++ inner ++ p.back.opened)

/-- What is in front of the content. -/
def opening (p : Page) : Text :=
  writeStatement standard ("for " ++ p.target.text ++ " in " ++ p.items.text) ++ writeChunks p.front.opened

/-- What is behind the content. -/
def closing (p : Page) : Text := writeChunks p.back.opened ++ writeStatement standard "endfor"

/-- The page as it stands. -/
def inline (p : Page) : Text := p.opening ++ writeChunks p.content.opened ++ p.closing

/-- The page with its content between the tags of a component. -/
def hoisted (p : Page) (tag : Text) : Text :=
  p.opening ++ ("<" ++ tag ++ ">" ++ writeChunks p.content.opened ++ "</" ++ tag ++ ">") ++ p.closing

end Page

/-! ### Reading pages -/

lemma Content.isRaw (c : Content) : IsRaw (writeChunks c.opened) := by
  induction c with
  | nil => exact .nil
  | cons part c ih =>
    refine .append ?_ ih
    cases part with
    | text t plain =>
      refine .of_forall fun c hc => ?_
      have hplain := plain c hc
      simp only [List.mem_cons, not_or] at hplain
      exact ⟨hplain.1, hplain.2.1⟩
    | path x =>
      have hspan := x.isSpan_opened
      rw [printing_eq] at hspan
      have hwhole := Span.whole_enclosed (hspan.inside (not_isSkipped_expression _)) (not_isSkipped_expression _)
      rw [← printing_eq] at hwhole
      simpa [Part.opened, Chunk.write, printing] using IsRaw.of_whole hwhole

/-- A statement with plain characters is a whole span, unless it opens a raw block. -/
lemma isRaw_statement {body : Text} (hplain : ∀ c ∈ body, IsPlain c) (hraw : Span.firstWord (spaced body) ≠ "raw") :
    IsRaw (writeStatement standard body) := by
  have htext : writeStatement standard body = enclosed .statement (spaced body) := by
    simp [writeStatement, enclosed, spaced, Delimiters.start, Delimiters.stop, standard]
  have hinside : Inside (standard.stop .statement) 0 (spaced body) := by
    have hblank : IsPlain ' ' := ⟨rfl, rfl, rfl, by decide⟩
    rw [← List.append_nil (spaced body)]
    refine (inside_append_iff .statement fun c hc => ?_).mpr .done
    simp only [spaced, List.mem_cons, List.mem_append, List.not_mem_nil, or_false] at hc
    rcases hc with rfl | hc | rfl
    · exact hblank
    · exact hplain c hc
    · exact hblank
  have hnot : ¬Span.IsSkipped .statement (enclosed .statement (spaced body)) := by
    rintro (hkind | ⟨-, hname⟩)
    · cases hkind
    · rw [← List.append_nil (enclosed _ _), Span.statementName_enclosed] at hname
      exact hraw hname
  rw [htext]
  exact .of_whole (Span.whole_enclosed hinside hnot)

namespace Page

lemma isRaw_opening (p : Page) : IsRaw p.opening := by
  refine (isRaw_statement ?_ ?_).append p.front.isRaw
  · have hword (f : Identifier) : ∀ c ∈ f.text, IsPlain c := fun c hc => isPlain_of_isWordChar (f.isWord.isWordChar c hc)
    have hfor : ∀ c ∈ ("for " : Text), IsPlain c := List.all_iff_forall_prop.mp (by decide)
    have hin : ∀ c ∈ (" in " : Text), IsPlain c := List.all_iff_forall_prop.mp (by decide)
    intro c hc
    simp only [List.mem_append] at hc
    rcases hc with ((hc | hc) | hc) | hc
    · exact hfor c hc
    · exact hword _ c hc
    · exact hin c hc
    · exact hword _ c hc
  · have hword : Span.firstWord (spaced ("for " ++ p.target.text ++ " in " ++ p.items.text)) = "for" := by
      with_unfolding_all rfl
    rw [hword]
    decide

lemma isRaw_closing (p : Page) : IsRaw p.closing :=
  p.back.isRaw.append (isRaw_statement (List.all_iff_forall_prop.mp (by decide)) (by decide))

end Page

/-! ### Lowering pages -/

/-- The items of raw text. -/
def rawItems (text : Text) : List Item := if text.isEmpty then [] else [.text text]

lemma writeItems_rawItems (text : Text) : writeItems standard (rawItems text) = text := by
  unfold rawItems
  split
  · next hempty => exact (List.isEmpty_iff.mp hempty).symm
  · exact List.append_nil text

lemma writeItems_append (items others : List Item) :
    writeItems standard (items ++ others) = writeItems standard items ++ writeItems standard others :=
  List.flatMap_append

lemma lowerNodes_rawNodes {nested : Bool} {count : Nat} {rest : List Node} {l : Lowering} (text : Text)
    (h : lowerNodes standard nested count rest = .ok l) :
    lowerNodes standard nested count (rawNodes text ++ rest) = .ok { l with items := rawItems text ++ l.items } := by
  unfold rawNodes rawItems
  split
  · exact h
  · rw [List.singleton_append, lowerNodes, h]
    rfl

/-- The names in the order of their first use. -/
def Content.names (c : Content) : List Text := c.captured.eraseDups

/-- What the tag of a component with a content becomes: the block of the content, if the content has a text. -/
def hoistedCall (tag : Text) (c : Content) : Call :=
  if writeChunks c.opened = [] then ⟨tag, [], [], .absent⟩ else ⟨tag, blockName tag 1, [], .fresh c.names⟩

/-- The blocks of a component with a content. -/
def hoistedBlocks (tag : Text) (c : Content) : List Block :=
  if writeChunks c.opened = [] then [] else [⟨blockName tag 1, [.text (writeChunks c.closed)]⟩]

lemma captureNodes_opened (c : Content) :
    captureNodes [.raw (writeChunks c.opened)] [] standard = .ok ([.raw (writeChunks c.closed)], c.names) := by
  have hnodes : captureFrom standard ⟨[], []⟩ [.raw (writeChunks c.opened)] =
      .ok ([.raw (writeChunks c.closed)], c.captured) :=
    captureFrom_raw_eq_ok_iff.mpr ⟨_, [], [], c.captureIn_opened, by rw [captureFrom], rfl, (List.append_nil _).symm⟩
  rw [captureNodes, hnodes]
  rfl

/-- A component with a content is lowered to a call and the block of the content. -/
lemma lowerNodes_component {rest : List Node} {l : Lowering} (offset : Int) (tag : Text) (c : Content)
    (h : ∀ count, lowerNodes standard false count rest = .ok { l with count := count }) (hblocks : l.blocks = []) :
    ∃ count, lowerNodes standard false 0 (.component tag [] (rawNodes (writeChunks c.opened)) false offset :: rest) =
      .ok ⟨.call (hoistedCall tag c) :: l.items, hoistedBlocks tag c, count⟩ := by
  unfold rawNodes hoistedCall hoistedBlocks
  by_cases hempty : writeChunks c.opened = []
  · refine ⟨0, ?_⟩
    simp only [hempty, List.isEmpty_nil, if_true, lowerNodes, lowerAttributes, h, hblocks]
  · have hchildren : [Node.raw (writeChunks c.opened)] ≠ [] := List.cons_ne_nil _ _
    have hinner : lowerNodes standard true 1 [.raw (writeChunks c.closed)] =
        .ok ⟨[.text (writeChunks c.closed)], [], 1⟩ := by
      rw [lowerNodes, lowerNodes]
    simp only [List.isEmpty_iff, hempty, if_false]
    exact ⟨1, (lowerNodes_component_eq_ok_iff hchildren).mpr
      ⟨_, _, [], _, _, captureNodes_opened c, rfl, hinner, h 1, by simp [hblocks]⟩⟩

/-! ### Compiled pages -/

lemma isName_renderFunction : Printed.IsName renderFunction := ⟨by decide, by decide, by decide⟩

lemma isName_scopeFunction : Printed.IsName scopeFunction := ⟨by decide, by decide, by decide⟩

lemma isName_thisName : Printed.IsName thisName := ⟨by decide, by decide, by decide⟩

lemma isName_rootName : Printed.IsName rootName := ⟨by decide, by decide, by decide⟩

/-- The name of a component. -/
structure Box extends Identifier where
  /-- The name begins with a capital. -/
  isComponentName : Markup.isComponentName text = true

namespace Box

/-- The name of a block is a name of the template language. -/
lemma isName_blockName (b : Box) : Printed.IsName (blockName b.text 1) where
  isIdentifier := by
    have hchars : ∀ c ∈ b.text, Text.isIdentifierChar c = true := Text.isIdentifierChar_of_isIdentifier b.isIdentifier
    have hend : ∀ c ∈ ("__" : Text) ++ Text.ofNat 1, Text.isIdentifierChar c = true :=
      List.all_eq_true.mp (by decide)
    have hname : blockName b.text 1 = 'g' :: (("lam__" : Text) ++ (b.text ++ (("__" : Text) ++ Text.ofNat 1))) := by
      simp [blockName, reservedStart]
    rw [hname, Text.isIdentifier, Bool.and_eq_true, List.all_eq_true]
    refine ⟨by decide, fun c hc => ?_⟩
    rcases List.mem_append.mp hc with hc | hc
    · exact List.all_eq_true.mp (by decide : ("lam__" : Text).all Text.isIdentifierChar = true) c hc
    rcases List.mem_append.mp hc with hc | hc
    · exact hchars c hc
    · exact hend c hc
  constant? := rfl
  ne_not := by
    intro h
    exact absurd (show some 'g' = some 'n' from congrArg List.head? h) (by decide)

/-- The call of the function that renders components. -/
def call (b : Box) (block : Text) (hblock : '\r' ∉ block) (carrier : Printed) : Printed :=
  .call (.name renderFunction isName_renderFunction)
    [.string b.text (Printed.plain_of_isIdentifier b.isIdentifier), .string block hblock, .dict [], carrier]

lemma write_call (b : Box) (block : Text) (hblock : '\r' ∉ block) (carrier : Carrier) (p : Printed)
    (hp : p.text = carrier.write) :
    Call.write standard ⟨b.text, block, [], carrier⟩ = Chunk.write (.value (b.call block hblock p)) := by
  simp [Call.write, Chunk.write, call, Printed.call, Printed.name, Printed.string, Printed.dict, Text.join,
    writeAttributes, writeDictionary, hp, standard]

end Box

/-- A dictionary of variables under their names. -/
def captures (names : List Text) (h : ∀ n ∈ names, Printed.IsName n) : Printed :=
  .dict (names.pmap (fun n hn => (.string n hn.plain, .name n hn)) h)

lemma text_captures (names : List Text) (h : ∀ n ∈ names, Printed.IsName n) :
    (captures names h).text = writeCapture names := by
  simp [captures, Printed.dict, writeCapture, writeDictionary, List.map_pmap, List.pmap_eq_map, Printed.string,
    Printed.name, Function.comp_def]

lemma expr_captures (names : List Text) (h : ∀ n ∈ names, Printed.IsName n) :
    (captures names h).expr = .dict (names.map fun n => (.literal (.text n), .name n)) := by
  simp [captures, Printed.dict, List.map_pmap, List.pmap_eq_map, Printed.string, Printed.name]

/-- The call of the function that makes contexts, with some captured variables. -/
def freshContext (names : List Text) (h : ∀ n ∈ names, Printed.IsName n) : Printed :=
  .call (.name scopeFunction isName_scopeFunction)
    [.name thisName isName_thisName, .name rootName isName_rootName,
      captures names h]

lemma text_freshContext (names : List Text) (h : ∀ n ∈ names, Printed.IsName n) :
    (freshContext names h).text = (Carrier.fresh names).write := by
  have htext : (freshContext names h).text = scopeFunction ++ '(' :: (Text.join ", "
      [thisName, rootName, (captures names h).text] ++ [')']) := by
    simp [freshContext, Printed.call, Printed.name]
  rw [htext, text_captures]
  simp [Carrier.write, Text.join]

namespace Content

lemma exists_of_mem_names {c : Content} {n : Text} (h : n ∈ c.names) : ∃ x : Variable, x.text = n ∧ isCaptured n = true := by
  obtain ⟨part, -, hn⟩ := List.mem_flatMap.mp (List.mem_eraseDups.mp h)
  cases part with
  | text t plain => cases hn
  | path x =>
    rw [Part.captured, Path.captured] at hn
    split at hn
    · next hcaptured =>
      obtain rfl := List.mem_singleton.mp hn
      exact ⟨x.head, rfl, hcaptured⟩
    · cases hn

lemma isName_of_mem_names {c : Content} : ∀ n ∈ c.names, Printed.IsName n := by
  intro n hn
  obtain ⟨x, rfl, -⟩ := exists_of_mem_names hn
  exact x.isName

/-- The span that calls for a component with a content. -/
def call (c : Content) (b : Box) : Printed :=
  if writeChunks c.opened = [] then b.call [] List.not_mem_nil .none
  else b.call (blockName b.text 1) b.isName_blockName.plain
    (freshContext c.names isName_of_mem_names)

/-- The macro that holds a content, if the content has a text. -/
def macros (c : Content) (b : Box) : List Construct :=
  if writeChunks c.opened = [] then []
  else [.define (blockName b.text 1) contextName b.isName_blockName isParameter_contextName c.closed]

lemma write_call (c : Content) (b : Box) : (hoistedCall b.text c).write standard = Chunk.write (.value (c.call b)) := by
  unfold hoistedCall call
  split
  · exact b.write_call _ _ _ _ rfl
  · exact b.write_call _ _ _ _ (text_freshContext _ _)

lemma write_macros (c : Content) (b : Box) :
    (hoistedBlocks b.text c).flatMap (Block.write standard) = writeConstructs (c.macros b) := by
  unfold hoistedBlocks macros
  split
  · rfl
  · simp [writeConstructs, Construct.write, Block.write, writeItems, Item.write]

end Content

/-- Raw text is compiled to itself. -/
lemma compile_of_isRaw (levels : Nat) (components : List Text) (name : Option Text) {text : Text}
    (h : IsRaw text) : ∃ compiled, compile levels text components standard name = .ok compiled ∧ compiled.deferred = [] ∧
      compiled.lowered.write standard = text := by
  have hnil : lowerNodes standard false 0 [] = .ok ⟨[], [], 0⟩ := by rw [lowerNodes]
  have hlower := lowerNodes_rawNodes text hnil
  rw [List.append_nil, List.append_nil] at hlower
  refine ⟨⟨rawNodes text, ⟨[], rawItems text⟩, []⟩, ?_, rfl, writeItems_rawItems text⟩
  rw [compile, Markup.parse_of_isRaw h]
  simp only [lower, hlower]

namespace Page

lemma write_loop (p : Page) (inner : List Chunk) :
    writeConstructs [p.loop inner] = p.opening ++ writeChunks inner ++ p.closing := by
  simp [writeConstructs, loop, Construct.write, opening, closing, writeChunks]

/-- The page as it stands is compiled to itself. -/
theorem compile_inline (p : Page) (levels : Nat) (components : List Text) (name : Option Text) :
    ∃ compiled, compile levels p.inline components standard name = .ok compiled ∧ compiled.deferred = [] ∧
      compiled.lowered.write standard = writeConstructs [p.loop p.content.opened] := by
  rw [write_loop]
  exact compile_of_isRaw levels components name ((p.isRaw_opening.append p.content.isRaw).append p.isRaw_closing)

/-- With the tags of a component around its content, the page is compiled to a loop that calls for the component,
behind the macro that holds the content. -/
theorem compile_hoisted (p : Page) (b : Box) (levels : Nat) {components : List Text} (name : Option Text)
    (hknown : b.text ∈ components) :
    ∃ compiled, compile (levels + 1) (p.hoisted b.text) components standard name = .ok compiled ∧ compiled.deferred = [] ∧
      compiled.lowered.write standard =
        writeConstructs (p.content.macros b ++ [p.loop [.value (p.content.call b)]]) := by
  have hparse := Markup.parse_component levels name p.isRaw_opening p.content.isRaw p.isRaw_closing b.isWord
    b.isComponentName hknown
  have hclosing (count : Nat) : lowerNodes standard false count (rawNodes p.closing) =
      .ok ⟨rawItems p.closing, [], count⟩ := by
    have hnil : lowerNodes standard false count [] = .ok ⟨[], [], count⟩ := by rw [lowerNodes]
    have hrest := lowerNodes_rawNodes p.closing hnil
    rwa [List.append_nil, List.append_nil] at hrest
  obtain ⟨count, hcomponent⟩ := lowerNodes_component (l := ⟨rawItems p.closing, [], 0⟩) p.opening.length b.text p.content
    hclosing rfl
  have hlower := lowerNodes_rawNodes p.opening hcomponent
  have htext : p.hoisted b.text = p.opening ++ '<' :: (b.text ++ '>' ::
      (writeChunks p.content.opened ++ '<' :: '/' :: (b.text ++ '>' :: p.closing))) := by
    simp [hoisted]
  let lowered : Lowered := ⟨hoistedBlocks b.text p.content,
    rawItems p.opening ++ .call (hoistedCall b.text p.content) :: rawItems p.closing⟩
  have hcompile : ∃ nodes, compile (levels + 1) (p.hoisted b.text) components standard name = .ok ⟨nodes, lowered, []⟩ := by
    rw [htext, compile, hparse]
    simp only [lower, hlower]
    exact ⟨_, rfl⟩
  obtain ⟨nodes, hcompile⟩ := hcompile
  refine ⟨_, hcompile, rfl, ?_⟩
  have hchunk : writeChunks [.value (p.content.call b)] = Chunk.write (.value (p.content.call b)) := List.append_nil _
  have hbody : writeItems standard (rawItems p.opening ++ .call (hoistedCall b.text p.content) :: rawItems p.closing) =
      p.opening ++ (hoistedCall b.text p.content).write standard ++ p.closing := by
    rw [writeItems_append, writeItems_rawItems, List.append_assoc]
    exact congrArg _ (congrArg _ (writeItems_rawItems p.closing))
  rw [Lowered.write, Content.write_macros, hbody, Content.write_call, ← hchunk, ← write_loop]
  exact List.flatMap_append.symm

end Page

end ComponentTags.Hoisting
