/-
# Printed expressions

An expression together with a text and the lexemes of the text, such that the text has these lexemes wherever
it stands inside of a span, and the lexemes are read as the expression (`Printed`).  Names, strings, attributes,
items, calls and dictionaries are printed as lowering writes them.
-/
import ComponentTags.Proofs.Template.Lexing
import ComponentTags.Proofs.Template.Operands
import ComponentTags.Template.Check

namespace ComponentTags.Template

open Reader (Operand Written constant? listed listed_cons_cons length_le_listed)

variable {isValue : Bool} {c : Char} {due : List Text} {n rest text : Text} {lexemes ls : List Lexeme}

/-! ### Texts with their lexemes -/

/-- A text has some lexemes wherever it stands inside of a span. -/
structure Spelled (text : Text) (lexemes : List Lexeme) : Prop where
  /-- The text has the lexemes in front of what no name goes on with. -/
  inside : ∀ {isValue : Bool} {due : List Text} {rest : Text} {ls : List Lexeme},
    rest.head?.any isNameChar = false → Inside isValue due rest ls →
      Inside isValue due (text ++ rest) (lexemes ++ ls)
  /-- The text begins with something other than a blank. -/
  begins : ∃ c tail, text = c :: tail ∧ Text.isBlank c = false

namespace Spelled

lemma name (h : Text.isIdentifier n = true) : Spelled n [.name n] where
  inside := Inside.name h
  begins := by
    cases n with
    | nil => cases h
    | cons c n =>
      refine ⟨c, n, rfl, ?_⟩
      rw [Bool.eq_false_iff]
      intro hblank
      rw [← Bool.true_eq_false, ← isNameChar_of_isIdentifier h c (.head _), isNameChar_of_isBlank hblank]

lemma string (t : Text) : Spelled (stringLiteral t) [.string t] where
  inside := fun _ => Inside.string t
  begins := ⟨'"', _, rfl, by decide⟩

lemma begins_append (h : Spelled text lexemes) (rest : Text) :
    ∃ c tail, text ++ rest = c :: tail ∧ Text.isBlank c = false := by
  obtain ⟨c, tail, rfl, hc⟩ := h.begins
  exact ⟨c, tail ++ rest, rfl, hc⟩

lemma entry {text' : Text} {lexemes' : List Lexeme} (h : Spelled text lexemes) (h' : Spelled text' lexemes') :
    Spelled (text ++ ": " ++ text') (lexemes ++ .sign ":" :: lexemes') where
  inside := by
    intro isValue due rest ls hrest hls
    obtain ⟨c, tail, hbegins, hc⟩ := h'.begins_append rest
    have hblank : (text' ++ rest).head?.any Text.isBlank = false := by rw [hbegins]; exact hc
    have hall := h.inside (by rfl)
      (Inside.sign (c := ':') (by decide) (Inside.blank hblank (h'.inside hrest hls)))
    simpa using hall
  begins := by
    rw [List.append_assoc]
    exact h.begins_append _

/-- A text with commas between its parts has the lexemes of a list. -/
lemma inside_join (items : List (Text × List Lexeme)) (hitems : ∀ x ∈ items, Spelled x.1 x.2)
    (hc : isNameChar c = false) (h : Inside isValue due (c :: rest) ls) :
    Inside isValue due (Text.join ", " (items.map Prod.fst) ++ c :: rest)
      (listed (items.map Prod.snd) ++ ls) := by
  induction items with
  | nil => exact h
  | cons x items ih =>
    cases items with
    | nil =>
      have hx := (hitems x (.head _)).inside (by simpa using hc) h
      simpa [listed, Text.join] using hx
    | cons y items =>
      have hrest := ih fun z hz => hitems z (.tail _ hz)
      have hy : ((Text.join ", " ((y :: items).map Prod.fst) ++ c :: rest).head?.any Text.isBlank) = false := by
        obtain ⟨d, tail, hbegins, hd⟩ := (hitems y (.tail _ (.head _))).begins
        cases items <;> simp [Text.join, hbegins, hd]
      have hx := (hitems x (.head _)).inside (by rfl)
        (Inside.sign (c := ',') (by decide) (Inside.blank hy hrest))
      have htext : Text.join ", " ((x :: y :: items).map Prod.fst) =
          x.1 ++ (',' :: ' ' :: Text.join ", " ((y :: items).map Prod.fst)) := by
        simp [Text.join]
      have hlexemes : listed ((x :: y :: items).map Prod.snd) =
          x.2 ++ .sign "," :: listed ((y :: items).map Prod.snd) := by
        rw [List.map_cons, List.map_cons, listed_cons_cons]
      rw [htext, hlexemes, List.append_assoc, List.append_assoc]
      exact hx

end Spelled

/-! ### Expressions -/

/-- An expression as it is written, which the template language reads back. -/
structure Printed where
  /-- How the expression is written. -/
  text : Text
  /-- The lexemes of the text. -/
  lexemes : List Lexeme
  /-- The expression. -/
  expr : Expr
  /-- The text has the lexemes. -/
  spelled : Spelled text lexemes
  /-- The lexemes are read as the expression. -/
  operand : ∀ {fuel : Nat}, lexemes.length ≤ fuel + 1 → Operand fuel lexemes expr
  /-- The expression applies no filters and tests that do not exist. -/
  check : expr.check false = .ok ()
  /-- The text has no line ends of other systems, which would be changed. -/
  plain : '\r' ∉ text

namespace Printed

lemma written (p : Printed) : Written p.lexemes p.expr := .of_operand fun _ => p.operand

/-- The texts that are variables wherever an expression can stand. -/
structure IsName (n : Text) : Prop where
  /-- The text is an identifier. -/
  isIdentifier : Text.isIdentifier n = true
  /-- The text is no constant. -/
  constant? : constant? n = none
  /-- The text is not the word `not`. -/
  ne_not : n ≠ "not"

lemma plain_of_isIdentifier (h : Text.isIdentifier n = true) : '\r' ∉ n :=
  fun hc => absurd (Text.isIdentifierChar_of_isIdentifier h _ hc) (by decide)

lemma IsName.plain (h : IsName n) : '\r' ∉ n := plain_of_isIdentifier h.isIdentifier

/-- A variable. -/
def name (n : Text) (h : IsName n) : Printed where
  text := n
  lexemes := [.name n]
  expr := .name n
  spelled := .name h.isIdentifier
  operand := fun _ => .name h.constant? h.ne_not
  check := rfl
  plain := h.plain

/-- The absent value. -/
def none : Printed where
  text := "none"
  lexemes := [.name "none"]
  expr := .literal .none
  spelled := .name (by decide)
  operand := fun _ => .word (by decide)
  check := rfl
  plain := by decide

/-- A string. -/
def string (t : Text) (h : '\r' ∉ t) : Printed where
  text := stringLiteral t
  lexemes := [.string t]
  expr := .literal (.text t)
  spelled := .string t
  operand := fun _ => .string t
  check := rfl
  plain := by
    intro hc
    simp only [stringLiteral, List.mem_append, List.mem_cons, List.mem_flatMap, List.not_mem_nil, or_false] at hc
    rcases hc with (hc | ⟨c, hc, hmem⟩) | hc
    · cases hc
    · -- what is put in front of a character is a backslash
      have hsame : '\r' = c := by
        split at hmem
        · exact List.mem_singleton.mp ((List.mem_cons.mp hmem).resolve_left (by decide))
        · exact List.mem_singleton.mp hmem
      exact h (hsame ▸ hc)
    · cases hc

/-- An attribute of a value. -/
def member (p : Printed) (f : Text) (hf : Text.isIdentifier f = true) : Printed where
  text := p.text ++ '.' :: f
  lexemes := p.lexemes ++ [.sign ".", .name f]
  expr := .member p.expr f
  spelled := by
    refine ⟨fun hrest h => ?_, p.spelled.begins_append _⟩
    rw [List.append_assoc, List.append_assoc]
    exact p.spelled.inside rfl (Inside.sign (by decide) (Inside.name hf hrest h))
  operand := fun hfuel => .member (p.operand (by rw [List.length_append] at hfuel; omega)) f
  check := p.check
  plain := by simp [p.plain, plain_of_isIdentifier hf]

/-- An item of a value. -/
def item (p key : Printed) : Printed where
  text := p.text ++ '[' :: key.text ++ [']']
  lexemes := p.lexemes ++ .sign "[" :: key.lexemes ++ [.sign "]"]
  expr := .item p.expr key.expr
  spelled := by
    refine ⟨fun {_ due rest _} _ h => ?_, by rw [List.append_assoc]; exact p.spelled.begins_append _⟩
    have hkey := key.spelled.inside (by rfl) (Inside.closing (c := ']') (by decide) h)
    have hitem := p.spelled.inside (by rfl) (Inside.opening (c := '[') rfl hkey)
    simpa using hitem
  operand := by
    intro fuel hfuel
    simp only [List.length_append, List.length_cons] at hfuel
    exact .item (p.operand (by omega)) key.written (by omega)
  check := by
    rw [Expr.check, p.check]
    exact key.check
  plain := by simp [p.plain, key.plain]

/-- A character of a joined text is one of the parts or of the separator. -/
lemma mem_of_mem_join {separator : Text} {parts : List Text} (h : c ∈ Text.join separator parts) :
    c ∈ separator ∨ ∃ part ∈ parts, c ∈ part := by
  fun_induction Text.join separator parts with
  | case1 => cases h
  | case2 part => exact .inr ⟨part, .head _, h⟩
  | case3 part rest _ ih =>
    rcases List.mem_append.mp h with h | h
    · exact (List.mem_append.mp h).symm.imp_right fun h => ⟨part, .head _, h⟩
    · exact (ih h).imp_right fun ⟨q, hq, hc⟩ => ⟨q, .tail _ hq, hc⟩

lemma plain_join {parts : List Text} (h : ∀ part ∈ parts, '\r' ∉ part) : '\r' ∉ Text.join ", " parts := by
  intro hc
  rcases mem_of_mem_join hc with hc | ⟨part, hpart, hc⟩
  · revert hc
    decide
  · exact h part hpart hc

/-- A call with arguments that are passed by their places. -/
def call (p : Printed) (arguments : List Printed) : Printed where
  text := p.text ++ '(' :: Text.join ", " (arguments.map Printed.text) ++ [')']
  lexemes := p.lexemes ++ .sign "(" :: listed (arguments.map Printed.lexemes) ++ [.sign ")"]
  expr := .call p.expr (arguments.map fun a => (.placed, a.expr))
  spelled := by
    refine ⟨fun {_ due rest _} _ h => ?_, by rw [List.append_assoc]; exact p.spelled.begins_append _⟩
    have harguments := Spelled.inside_join (arguments.map fun a => (a.text, a.lexemes)) (c := ')') ?_
      (by decide) (Inside.closing (by decide) h)
    · rw [List.map_map, List.map_map] at harguments
      have hcall := p.spelled.inside (by rfl) (Inside.opening (c := '(') rfl harguments)
      simpa [Function.comp_def] using hcall
    · intro x hx
      obtain ⟨a, -, rfl⟩ := List.mem_map.mp hx
      exact a.spelled
  operand := by
    intro fuel hfuel
    simp only [List.length_append, List.length_cons] at hfuel
    have hcall := Operand.call (arguments.map fun a => (a.lexemes, a.expr))
      (show Operand fuel _ _ from p.operand (by omega)) ?_
    · simpa [List.map_map, Function.comp_def] using hcall
    · intro x hx
      obtain ⟨a, ha, rfl⟩ := List.mem_map.mp hx
      have hless := length_le_listed (List.mem_map_of_mem (f := Printed.lexemes) ha)
      exact ⟨a.written, show a.lexemes.length ≤ fuel by omega⟩
  check := by
    have harguments : checkArguments false (arguments.map fun a => (.placed, a.expr)) = .ok () := by
      induction arguments with
      | nil => rfl
      | cons a arguments ih =>
        rw [List.map_cons, checkArguments, a.check]
        exact ih
    rw [Expr.check, p.check]
    exact harguments
  plain := by
    have harguments : '\r' ∉ Text.join ", " (arguments.map Printed.text) := plain_join fun part hpart => by
      obtain ⟨a, -, rfl⟩ := List.mem_map.mp hpart
      exact a.plain
    simpa [p.plain] using harguments

/-- A dictionary. -/
def dict (entries : List (Printed × Printed)) : Printed where
  text := '\x7b' :: (Text.join ", " (entries.map fun x => x.1.text ++ ": " ++ x.2.text) ++ ['\x7d'])
  lexemes := .sign "\x7b" :: (listed (entries.map fun x => x.1.lexemes ++ .sign ":" :: x.2.lexemes) ++ [.sign "\x7d"])
  expr := .dict (entries.map fun x => (x.1.expr, x.2.expr))
  spelled := by
    refine ⟨fun {_ due rest ls} _ h => ?_, ⟨'\x7b', _, rfl, by decide⟩⟩
    have hentries := Spelled.inside_join
      (entries.map fun x => (x.1.text ++ ": " ++ x.2.text, x.1.lexemes ++ .sign ":" :: x.2.lexemes))
      (c := '\x7d') ?_ (by decide) (Inside.closing (by decide) h)
    · rw [List.map_map, List.map_map] at hentries
      have hdict := Inside.opening (c := '\x7b') rfl hentries
      simpa [Function.comp_def] using hdict
    · intro x hx
      obtain ⟨y, -, rfl⟩ := List.mem_map.mp hx
      exact y.1.spelled.entry y.2.spelled
  operand := by
    intro fuel hfuel
    simp only [List.length_append, List.length_cons] at hfuel
    have hentries : ∀ x ∈ entries.map fun x => ((x.1.lexemes, x.1.expr), (x.2.lexemes, x.2.expr)),
        Written x.1.1 x.1.2 ∧ Written x.2.1 x.2.2 ∧ (x.1.1 ++ .sign ":" :: x.2.1).length ≤ fuel := by
      intro x hx
      obtain ⟨y, hy, rfl⟩ := List.mem_map.mp hx
      have hless := length_le_listed (List.mem_map_of_mem
        (f := fun x : Printed × Printed => x.1.lexemes ++ .sign ":" :: x.2.lexemes) hy)
      exact ⟨y.1.written, y.2.written, show (y.1.lexemes ++ .sign ":" :: y.2.lexemes).length ≤ fuel by omega⟩
    simpa [List.map_map, Function.comp_def] using Operand.dict _ hentries
  check := by
    rw [Expr.check]
    induction entries with
    | nil => rfl
    | cons x entries ih =>
      rw [List.map_cons, checkEntries, x.1.check, x.2.check]
      exact ih
  plain := by
    have hentries : '\r' ∉ Text.join ", " (entries.map fun x => x.1.text ++ ": " ++ x.2.text) :=
      plain_join fun part hpart => by
        obtain ⟨x, -, rfl⟩ := List.mem_map.mp hpart
        simp [x.1.plain, x.2.plain]
    simpa using hentries

end Printed

end ComponentTags.Template
