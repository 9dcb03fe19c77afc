/-
# Templates of flat blocks

Text and printed expressions in a row are the inside of a flat block (`Chunk`).  A template that is made of
them, or of macros and loops with such blocks (`Construct`), is accepted, and its statements are known but for
their lines (`accept_writeChunks`, `exists_accept_writeConstructs`).
-/
import ComponentTags.Proofs.Template.Blocks
import ComponentTags.Proofs.Template.Printed

namespace ComponentTags.Template

open Delimiters (standard)
open Reader (Flat Iterates constant? loopLexemes macroLexemes)

variable {held rest : Text} {ls : List Lexeme} {chunks : List Chunk}

/-! ### Chunks -/

/-- A part of a flat block. -/
inductive Chunk where
  /-- Text, in which no span begins and no line ends as in other systems. -/
  | text (t : Text) (plain : ∀ c ∈ t, c ≠ '\x7b' ∧ c ≠ '\r')
  /-- A span with an expression. -/
  | value (p : Printed)

/-- A chunk as text. -/
def Chunk.write : Chunk → Text
  | text t _ => t
  | value p => "\x7b\x7b " ++ p.text ++ " \x7d\x7d"

/-- Chunks one after the other. -/
def writeChunks (chunks : List Chunk) : Text := chunks.flatMap Chunk.write

lemma return_notMem_writeChunks (chunks : List Chunk) : '\r' ∉ writeChunks chunks := by
  intro hc
  obtain ⟨chunk, -, hc⟩ := List.mem_flatMap.mp hc
  cases chunk with
  | text t plain => exact (plain _ hc).2 rfl
  | value p =>
    have hvalue : '\r' ∉ "\x7b\x7b " ++ p.text ++ " \x7d\x7d" := by simp [p.plain]
    exact hvalue hc

/-- The lexemes of chunks, in front of which some text is held back. -/
def chunkLexemes (held : Text) : List Chunk → List Lexeme
  | [] => dataLexemes held
  | .text t _ :: chunks => chunkLexemes (held ++ t) chunks
  | .value p :: chunks => dataLexemes held ++ .valueBegin :: (p.lexemes ++ .valueEnd :: chunkLexemes [] chunks)

/-- Text that is put out, as statements: there is none for the empty text. -/
def textStatements (held : Text) : List Statement := if held = [] then [] else [.text held]

/-- The statements of chunks, in front of which some text is held back. -/
def chunkStatements (held : Text) : List Chunk → List Statement
  | [] => textStatements held
  | .text t _ :: chunks => chunkStatements (held ++ t) chunks
  | .value p :: chunks => textStatements held ++ .output p.expr :: chunkStatements [] chunks

/-- What a chunk does with names. -/
def Chunk.mentions : Chunk → List Mention
  | text _ _ => []
  | value p => p.expr.mentions

lemma mentionsAll_chunkStatements (held : Text) (chunks : List Chunk) :
    mentionsAll (chunkStatements held chunks) = chunks.flatMap Chunk.mentions := by
  have htext (held : Text) (others : List Statement) :
      mentionsAll (textStatements held ++ others) = mentionsAll others := by
    unfold textStatements
    split
    · rfl
    · rw [List.singleton_append, mentionsAll, Statement.mentions, List.nil_append]
  induction chunks generalizing held with
  | nil =>
    have hmentions := htext held []
    rwa [List.append_nil] at hmentions
  | cons chunk chunks ih =>
    cases chunk with
    | text t h => exact ih (held ++ t)
    | value p =>
      rw [chunkStatements, htext, mentionsAll, Statement.mentions, ih]
      rfl

lemma flat_held (held : Text) {statements : List Statement} (h : Flat ls statements) :
    Flat (dataLexemes held ++ ls) (textStatements held ++ statements) := by
  unfold dataLexemes textStatements
  split
  · exact h
  · exact .text held h

lemma flat_chunks (held : Text) (chunks : List Chunk) :
    Flat (chunkLexemes held chunks) (chunkStatements held chunks) := by
  induction chunks generalizing held with
  | nil =>
    have hflat := flat_held held .nil
    rwa [List.append_nil, List.append_nil] at hflat
  | cons chunk chunks ih =>
    cases chunk with
    | text t h => exact ih (held ++ t)
    | value p => exact flat_held held (.value p.written (ih []))

/-- Chunks have their lexemes in front of what flushes the text that is held back. -/
lemma outside_chunks (held : Text) (chunks : List Chunk)
    (h : ∀ held, Outside held rest (dataLexemes held ++ ls)) :
    Outside held (writeChunks chunks ++ rest) (chunkLexemes held chunks ++ ls) := by
  induction chunks generalizing held with
  | nil => exact h held
  | cons chunk chunks ih =>
    cases chunk with
    | text t ht =>
      have htext : writeChunks (.text t ht :: chunks) ++ rest = t ++ (writeChunks chunks ++ rest) := by
        simp [writeChunks, Chunk.write]
      rw [htext]
      exact .text (fun hc => (ht _ hc).1 rfl) (ih (held ++ t))
    | value p =>
      have htext : writeChunks (.value p :: chunks) ++ rest =
          '\x7b' :: '\x7b' :: ' ' :: (p.text ++ (' ' :: '\x7d' :: '\x7d' :: (writeChunks chunks ++ rest))) := by
        simp [writeChunks, Chunk.write]
      have hblank : (p.text ++ (' ' :: '\x7d' :: '\x7d' :: (writeChunks chunks ++ rest))).head?.any Text.isBlank =
          false := by
        obtain ⟨c, tail, hbegins, hc⟩ := p.spelled.begins_append (' ' :: '\x7d' :: '\x7d' :: (writeChunks chunks ++ rest))
        rw [hbegins]
        exact hc
      have hlexemes : chunkLexemes held (.value p :: chunks) ++ ls =
          dataLexemes held ++ .valueBegin :: (p.lexemes ++ .valueEnd :: (chunkLexemes [] chunks ++ ls)) := by
        simp [chunkLexemes]
      rw [htext, hlexemes]
      exact .value (.blank hblank (p.spelled.inside rfl (.blank rfl (.close_value (ih [])))))

lemma checkStatements_append (statements others : List Statement) (isConditional : Bool) :
    checkStatements isConditional (statements ++ others) =
      (checkStatements isConditional statements >>= fun _ => checkStatements isConditional others) := by
  induction statements with
  | nil => rfl
  | cons st statements ih => rw [List.cons_append, checkStatements, checkStatements, ih, bind_assoc]

lemma check_chunkStatements (held : Text) (chunks : List Chunk) :
    checkStatements false (chunkStatements held chunks) = .ok () := by
  have htext (held : Text) : checkStatements false (textStatements held) = .ok () := by
    unfold textStatements
    split <;> rfl
  induction chunks generalizing held with
  | nil => exact htext held
  | cons chunk chunks ih =>
    cases chunk with
    | text t h => exact ih (held ++ t)
    | value p =>
      rw [chunkStatements, checkStatements_append, htext, checkStatements, Statement.check, p.check]
      exact ih []

/-- A template of chunks is accepted. -/
theorem accept_writeChunks (hfeed : (writeChunks chunks).getLast? ≠ some '\n') :
    accept standard (writeChunks chunks) = .ok (chunkStatements [] chunks) := by
  have hflat := flat_chunks [] chunks
  have hlexemes : (lexemes standard (writeChunks chunks)).map Placed.lexeme =
      chunkLexemes [] chunks ++ [.finish] := by
    refine lexemes_of_outside (return_notMem_writeChunks chunks) hfeed ?_
    simpa using outside_chunks [] chunks fun _ => .finish
  have hsteps (block : Text → Reader.Block) : Iterates (Reader.partStep {} [] block) []
      (chunkLexemes [] chunks ++ [.finish]) ((· = chunkStatements [] chunks) ∘ List.reverse) [.finish] :=
    hflat.iterates rfl (.stop (Reader.reads_part_finish.bind_eq (.pure none)) (by simp))
  obtain ⟨l, tail, htail, hl⟩ := hflat.isFault_append (show Lexeme.finish.isFault = false from rfl)
  rw [htail] at hlexemes hsteps
  obtain ⟨statements, hread, rfl⟩ := exists_read_eq_ok standard hlexemes hl (hsteps _)
  rw [accept, hread]
  show (checkStatements false (chunkStatements [] chunks) >>= fun _ => _) = _
  rw [check_chunkStatements]
  rfl

/-! ### Macros and loops -/

/-- The names that a loop can set. -/
structure IsTarget (n : Text) : Prop extends Printed.IsName n where
  /-- The name is not the word that ends targets. -/
  ne_in : n ≠ "in"
  /-- The name is not that of the loop's state. -/
  ne_loop : n ≠ loopName

/-- The names whose items a loop can go through. -/
structure IsItems (n : Text) : Prop extends Printed.IsName n where
  /-- The name is not the word behind the items. -/
  ne_recursive : n ≠ "recursive"

/-- The parameters that a macro can have whatever it reads. -/
structure IsParameter (n : Text) : Prop extends Printed.IsName n where
  /-- The name is not that of the macro of a block that calls this one. -/
  ne_caller : n ≠ callerName

/-- A macro or a loop with a flat block. -/
inductive Construct where
  /-- A macro with one parameter. -/
  | define (name parameter : Text) (hname : Printed.IsName name) (hparameter : IsParameter parameter)
      (body : List Chunk)
  /-- A loop. -/
  | loop (target items : Text) (htarget : IsTarget target) (hitems : IsItems items) (body : List Chunk)

namespace Construct

/-- A construct as text. -/
def write : Construct → Text
  | .define name parameter _ _ body =>
    writeStatement standard ("macro " ++ name ++ "(" ++ parameter ++ ")") ++ writeChunks body ++
      writeStatement standard "endmacro"
  | .loop target items _ _ body =>
    writeStatement standard ("for " ++ target ++ " in " ++ items) ++ writeChunks body ++
      writeStatement standard "endfor"

lemma return_notMem_write (c : Construct) : '\r' ∉ c.write := by
  cases c with
  | define name parameter hname hparameter body =>
    simp [write, writeStatement, standard, hname.plain, hparameter.plain, return_notMem_writeChunks]
  | loop target items htarget hitems body =>
    simp [write, writeStatement, standard, htarget.plain, hitems.plain, return_notMem_writeChunks]

/-- The lexemes of a construct. -/
def lexemes : Construct → List Lexeme
  | .define name parameter _ _ body => macroLexemes name parameter (chunkLexemes [] body)
  | .loop target items _ _ body => loopLexemes target items (chunkLexemes [] body)

/-- The statements that a construct means, which differ in their lines. -/
def Means : Construct → Statement → Prop
  | .define name parameter _ _ body, st =>
    ∃ line, st = .define name [⟨parameter, none⟩] (chunkStatements [] body) line
  | .loop target items _ _ body, st =>
    ∃ line, st = .loop (.name target line) (.name items) [] (chunkStatements [] body) []

lemma inside_name {isValue : Bool} {due : List Text} {n : Text} {c : Char} (hn : Text.isIdentifier n = true)
    (hc : isNameChar c = false) (h : Inside isValue due (c :: rest) ls) :
    Inside isValue due (' ' :: (n ++ c :: rest)) (.name n :: ls) := by
  have hspelled := Spelled.name hn
  obtain ⟨d, tail, hbegins, hd⟩ := hspelled.begins_append (c :: rest)
  refine .blank (by rw [hbegins]; exact hd) (hspelled.inside (by simpa using hc) h)

/-- A construct has its lexemes. -/
lemma outside_write (c : Construct) (h : Outside [] rest ls) :
    Outside held (c.write ++ rest) (dataLexemes held ++ (c.lexemes ++ ls)) := by
  cases c with
  | define name parameter hname hparameter body =>
    have htext : (Construct.define name parameter hname hparameter body).write ++ rest = '\x7b' :: '%' :: ' ' ::
        (("macro" : Text) ++ ' ' :: (name ++ '(' :: (parameter ++ ')' :: ' ' :: '%' :: '\x7d' ::
          (writeChunks body ++ '\x7b' :: '%' :: ' ' :: (("endmacro" : Text) ++ ' ' :: '%' :: '\x7d' :: rest))))) := by
      simp [write, writeStatement, standard]
    have hend : Inside false [] (' ' :: (("endmacro" : Text) ++ ' ' :: '%' :: '\x7d' :: rest))
        (.name "endmacro" :: .blockEnd :: ls) :=
      inside_name (by decide) (by decide) (.blank rfl (.close_statement h))
    have hbody := outside_chunks [] body fun held => Outside.statement rfl hend
    have hstart := inside_name (n := "macro") (by decide) (by decide) (inside_name (c := '(') hname.isIdentifier
      (by decide) (.opening (show closing? ['('] = some [')'] from rfl) (Inside.name hparameter.isIdentifier rfl
        (.closing (c := ')') (by decide) (.blank rfl (.close_statement hbody))))))
    rw [htext]
    simpa [Construct.lexemes, macroLexemes] using Outside.statement rfl hstart
  | loop target items htarget hitems body =>
    have htext : (Construct.loop target items htarget hitems body).write ++ rest = '\x7b' :: '%' :: ' ' ::
        (("for" : Text) ++ ' ' :: (target ++ ' ' :: (("in" : Text) ++ ' ' :: (items ++ ' ' :: '%' :: '\x7d' ::
          (writeChunks body ++ '\x7b' :: '%' :: ' ' :: (("endfor" : Text) ++ ' ' :: '%' :: '\x7d' :: rest)))))) := by
      simp [write, writeStatement, standard]
    have hend : Inside false [] (' ' :: (("endfor" : Text) ++ ' ' :: '%' :: '\x7d' :: rest))
        (.name "endfor" :: .blockEnd :: ls) :=
      inside_name (by decide) (by decide) (.blank rfl (.close_statement h))
    have hbody := outside_chunks [] body fun held => Outside.statement rfl hend
    have hstart := inside_name (n := "for") (by decide) (by decide) (inside_name htarget.isIdentifier (by decide)
      (inside_name (n := "in") (by decide) (by decide) (inside_name hitems.isIdentifier (by decide)
        (.blank rfl (.close_statement hbody)))))
    rw [htext]
    simpa [Construct.lexemes, loopLexemes] using Outside.statement rfl hstart

/-- The construct is read in front of anything but a fault. -/
lemma reads (c : Construct) {fuel : Nat} {stop : Lexeme} {more : List Lexeme} (hstop : stop.isFault = false) :
    Reader.Reads (Reader.part? {} [] (Reader.innerBlock (fuel + 1) {})) (c.lexemes ++ stop :: more)
      (fun part => ∃ st, part = some st ∧ c.Means st) (stop :: more) := by
  cases c with
  | define name parameter hname hparameter body =>
    exact Reader.reads_definition (flat_chunks [] body) hname.constant? hparameter.constant? rfl hstop
  | loop target items htarget hitems body =>
    exact Reader.reads_loop (flat_chunks [] body) ⟨htarget.constant?, htarget.ne_not, htarget.ne_in⟩
      ⟨hitems.constant?, hitems.ne_not, hitems.ne_recursive⟩ rfl hstop

lemma places_chunkStatements (held : Text) (chunks : List Chunk) : placesOfAll (chunkStatements held chunks) = [] := by
  have htext (held : Text) (others : List Statement) : placesOfAll (textStatements held ++ others) = placesOfAll others := by
    unfold textStatements
    split
    · rfl
    · rw [List.singleton_append, placesOfAll, Statement.places, List.nil_append]
  induction chunks generalizing held with
  | nil =>
    have hplaces := htext held []
    rwa [List.append_nil] at hplaces
  | cons chunk chunks ih =>
    cases chunk with
    | text t h => exact ih (held ++ t)
    | value p =>
      rw [chunkStatements, htext, placesOfAll, Statement.places, List.nil_append]
      exact ih []

/-- Nothing can be said against the statements of a construct. -/
lemma check {c : Construct} {st : Statement} (h : c.Means st) : st.check false = .ok () := by
  cases c with
  | define name parameter hname hparameter body =>
    obtain ⟨line, rfl⟩ := h
    have hcaller : checkCaller [⟨parameter, none⟩] (chunkStatements [] body) line = .ok () := by
      rw [checkCaller]
      simp [hparameter.ne_caller]
    rw [Statement.check, hcaller]
    exact check_chunkStatements [] body
  | loop target items htarget hitems body =>
    obtain ⟨line, rfl⟩ := h
    have hplaces : (Statement.loop (.name target line) (.name items) [] (chunkStatements [] body) []).places =
        [(target, line)] := by
      rw [Statement.places, places_chunkStatements]
      rfl
    have hname : checkLoopName (.loop (.name target line) (.name items) [] (chunkStatements [] body) []) = .ok () := by
      rw [checkLoopName, hplaces, List.find?_cons_of_neg (by simpa using htarget.ne_loop)]
      rfl
    rw [Statement.check, hname]
    show (checkStatements false (chunkStatements [] body) >>= fun _ => _) = _
    rw [check_chunkStatements]
    rfl

end Construct

/-- Constructs one after the other. -/
def writeConstructs (constructs : List Construct) : Text := constructs.flatMap Construct.write

open Construct (Means)

variable {constructs : List Construct} {statements : List Statement}

lemma return_notMem_writeConstructs (constructs : List Construct) : '\r' ∉ writeConstructs constructs := by
  intro hc
  obtain ⟨c, -, hc⟩ := List.mem_flatMap.mp hc
  exact c.return_notMem_write hc

/-- Macros and loops end with a statement. -/
lemma getLast?_writeConstructs_ne (constructs : List Construct) : (writeConstructs constructs).getLast? ≠ some '\n' := by
  cases constructs.eq_nil_or_concat with
  | inl hnil => rw [hnil]; decide
  | inr hconcat =>
    obtain ⟨front, c, rfl⟩ := hconcat
    have hlast : c.write.getLast? = some '\x7d' := by
      cases c <;> (rw [Construct.write, List.getLast?_append]; rfl)
    rw [List.concat_eq_append, writeConstructs, List.flatMap_append, List.flatMap_singleton, List.getLast?_append, hlast,
      Option.some_or]
    decide

lemma outside_writeConstructs (constructs : List Construct) :
    Outside [] (writeConstructs constructs) (constructs.flatMap Construct.lexemes ++ [.finish]) := by
  induction constructs with
  | nil => exact .finish
  | cons c constructs ih =>
    rw [writeConstructs, List.flatMap_cons, List.flatMap_cons, List.append_assoc]
    exact c.outside_write ih

lemma exists_cons_of_constructs (constructs : List Construct) :
    ∃ l tail, constructs.flatMap Construct.lexemes ++ [.finish] = l :: tail ∧ l.isFault = false := by
  cases constructs with
  | nil => exact ⟨_, _, rfl, rfl⟩
  | cons c constructs => cases c <;> exact ⟨_, _, rfl, rfl⟩

/-- Constructs are read one after the other. -/
lemma iterates_constructs (fuel : Nat) (constructs : List Construct) (parts : List Statement) :
    Iterates (Reader.partStep {} [] (Reader.innerBlock (fuel + 1) {})) parts
      (constructs.flatMap Construct.lexemes ++ [.finish])
      (fun found => ∃ statements, found = statements.reverse ++ parts ∧ List.Forall₂ Means constructs statements)
      [.finish] := by
  induction constructs generalizing parts with
  | nil => exact .stop (Reader.reads_part_finish.bind_eq (.pure none)) ⟨[], rfl, .nil⟩
  | cons c constructs ih =>
    obtain ⟨l, tail, htail, hl⟩ := exists_cons_of_constructs constructs
    rw [List.flatMap_cons, List.append_assoc, htail]
    refine .more (Reader.partStep_some (c.reads hl)) ?_ ?_
    · have hne : 0 < c.lexemes.length := by cases c <;> exact Nat.succ_pos _
      rw [List.length_append]
      omega
    · rintro _ ⟨st, rfl, hst⟩
      rw [← htail]
      refine (ih (st :: parts)).mono ?_
      rintro _ ⟨statements, rfl, hstatements⟩
      exact ⟨st :: statements, by rw [List.reverse_cons, List.append_assoc, List.singleton_append], .cons hst hstatements⟩

lemma checkStatements_of_means (h : List.Forall₂ Means constructs statements) :
    checkStatements false statements = .ok () := by
  induction h with
  | nil => rfl
  | cons hst _ ih =>
    rw [checkStatements, Construct.check hst]
    exact ih

/-- A template of macros and loops is accepted, and means them one after the other. -/
theorem exists_accept_writeConstructs (constructs : List Construct) :
    ∃ statements, accept standard (writeConstructs constructs) = .ok statements ∧
      List.Forall₂ Means constructs statements := by
  have hlexemes := lexemes_of_outside (return_notMem_writeConstructs constructs)
    (getLast?_writeConstructs_ne constructs) (outside_writeConstructs constructs)
  obtain ⟨l, tail, htail, hl⟩ := exists_cons_of_constructs constructs
  have hsteps := iterates_constructs tail.length constructs []
  rw [htail] at hlexemes hsteps
  obtain ⟨statements, hread, hstatements⟩ := exists_read_eq_ok
    (P := List.Forall₂ Means constructs) standard hlexemes hl (hsteps.mono fun parts hparts => by
      obtain ⟨statements, rfl, hstatements⟩ := hparts
      rwa [Function.comp_apply, List.append_nil, List.reverse_reverse])
  refine ⟨statements, ?_, hstatements⟩
  rw [accept, hread]
  show (checkStatements false statements >>= fun _ => _) = _
  rw [checkStatements_of_means hstatements]
  rfl

end ComponentTags.Template
