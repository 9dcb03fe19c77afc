/-
# Where look-ups stand in a closed text

The values of attributes are closed like any other text, but their expressions are found later by other
rules, so the tokens of the closed text do not say where its look-ups are.  Its characters do: a closed
text is the text with whole names replaced (`Replaces`).  What is quoted for one reading may be code for
another one, but wherever both are outside of literals they agree on where a token goes on.  So the
relation keeps the token that the characters in front of a place run on with (`kindAfter`), and a name is
replaced only where none runs on.
-/
import ComponentTags.Proofs.Scope.Single

namespace ComponentTags

open Delimiters (standard)
open ComponentTags.Span (Inside IsSkipped enclosed Literal)

/-! ### Tokens that run on -/

/-- A token of a kind runs on with a character.  String literals and signs end by themselves. -/
def runsOn : TokenKind → Char → Bool
  | .blank, c => Text.isBlank c
  | .number, c => Token.isNumberChar c
  | .name, c => Text.isWordChar c
  | .string, _ | .sign, _ => false

/-- The kind of the token that a character belongs to outside of literals, behind a token of a kind. -/
def kindAfter (kind : TokenKind) (c : Char) : TokenKind :=
  if runsOn kind c then kind else (Token.shape c []).1

/-- The kind of the token that a text ends with outside of literals, behind a token of a kind. -/
def kindBehind (kind : TokenKind) (text : Text) : TokenKind := text.foldl kindAfter kind

variable {kind : TokenKind} {c d : Char} {name text rest behind : Text}

lemma kindBehind_append (kind : TokenKind) (text rest : Text) :
    kindBehind kind (text ++ rest) = kindBehind (kindBehind kind text) rest :=
  List.foldl_append

/-- The kind of a token is decided by its first character. -/
lemma shape_fst (c : Char) (rest : Text) : (Token.shape c rest).1 = (Token.shape c []).1 := by
  unfold Token.shape
  repeat' split
  all_goals rfl

/-- A token that runs on takes all characters that it runs on with. -/
lemma shape_of_run (h : (Token.shape c []).1 = kind) (hstring : kind ≠ .string) (hsign : kind ≠ .sign)
    (rest : Text) : Token.shape c rest = (kind, (rest.takeWhile (runsOn kind)).length) := by
  subst h
  unfold Token.shape at hstring hsign ⊢
  split
  · rfl
  split
  · simp_all
  split
  · rfl
  split
  · rfl
  · simp_all

lemma shape_sign (h : (Token.shape c []).1 = .sign) (rest : Text) :
    Token.shape c rest = (.sign, if rest.head?.any fun x => Token.pairs.contains [c, x] then 1 else 0) := by
  rw [← any_pairs_isPrefixOf]
  unfold Token.shape at h ⊢
  split_ifs at h ⊢ <;> simp_all

lemma kindAfter_of_not_runsOn (h : runsOn kind c = false) (rest : Text) :
    kindAfter kind c = (Token.shape c rest).1 := by
  rw [kindAfter, h, shape_fst c rest]
  rfl

lemma kindAfter_of_isQuote (h : Span.isQuote c = true) (kind : TokenKind) : kindAfter kind c = .string := by
  obtain rfl | rfl := Span.isQuote_iff.mp h <;> cases kind <;> decide

/-- A token runs on with the first characters of all names or with none. -/
lemma runsOn_of_startsName (hc : startsName c) (hd : startsName d) (h : runsOn kind c = false) :
    runsOn kind d = false := by
  cases kind with
  | blank => exact hd.1
  | number => exact absurd h (by simp [runsOn, hc.isNumberChar])
  | name => exact absurd h (by simp [runsOn, hc.isWordChar])
  | string | sign => rfl

lemma kindBehind_of_runsOn (h : ∀ x ∈ text, runsOn kind x = true) : kindBehind kind text = kind := by
  induction text with
  | nil => rfl
  | cons x text ih =>
    rw [List.forall_mem_cons] at h
    rw [kindBehind, List.foldl_cons, kindAfter, if_pos h.1]
    exact ih h.2

/-- Behind a name that no token runs on with there is a name. -/
lemma IsWord.kindBehind_eq (h : IsWord name) (hfirst : name.head?.any (runsOn kind) = false) :
    kindBehind kind name = .name := by
  obtain ⟨hstart, hrest⟩ := h
  rw [List.head?_cons, Option.any_some] at hfirst
  rw [kindBehind, List.foldl_cons, kindAfter_of_not_runsOn hfirst [], shape_name hstart]
  exact kindBehind_of_runsOn hrest

/-- The second sign of a pair is a sign by itself. -/
lemma kindAfter_of_pair (h : [c, d] ∈ Token.pairs) : kindAfter .sign d = .sign := by
  have hall : Token.pairs.all (fun p => p.getLast?.all fun x => kindAfter .sign x = .sign) = true := by
    decide
  simpa using List.all_eq_true.mp hall _ h

/-- Behind a token in front of other text there is a token of its kind that does not run on. -/
lemma Token.EndsBefore.kindBehind_eq {t : Token} (h : t.EndsBefore (c :: behind))
    (hfirst : t.text.head?.any (runsOn kind) = false) :
    kindBehind kind t.text = t.kind ∧ runsOn t.kind c = false := by
  obtain ⟨k, text⟩ := t
  obtain ⟨first, rest, rfl, hshape⟩ := h
  rw [List.head?_cons, Option.any_some] at hfirst
  have hkind : (Token.shape first []).1 = k := by rw [← shape_fst first (rest ++ c :: behind), hshape]
  have hbehind : kindBehind kind (first :: rest) = kindBehind k rest := by
    rw [kindBehind, List.foldl_cons, kindAfter_of_not_runsOn hfirst [], hkind, kindBehind]
  rw [hbehind]
  -- a token that runs on goes up to a character that it does not run on with
  have hrun (hstring : k ≠ .string) (hsign : k ≠ .sign) : kindBehind k rest = k ∧ runsOn k c = false := by
    rw [shape_of_run hkind hstring hsign, Prod.mk.injEq, length_takeWhile_eq_iff] at hshape
    exact ⟨kindBehind_of_runsOn hshape.2.1, by simpa using hshape.2.2⟩
  cases k with
  | blank | number | name => exact hrun (by simp) (by simp)
  | string =>
    refine ⟨?_, rfl⟩
    have hends : Token.EndsBefore ⟨.string, first :: rest⟩ (c :: behind) := ⟨first, rest, rfl, hshape⟩
    obtain ⟨q, text, htext, hquote, hlength⟩ := hends.isQuote rfl
    cases htext
    -- the literal is closed, as there is text behind it
    obtain ⟨front, more, heq, hfront, hclosed⟩ | hopen :=
      Span.literal_or_length_eq first 0 (rest ++ c :: behind)
    · obtain ⟨rfl, -⟩ := List.append_inj heq (by omega)
      obtain ⟨inside, rfl⟩ := List.getLast?_eq_some_iff.mp (getLast?_of_literal hfront)
      rw [kindBehind_append]
      exact kindAfter_of_isQuote hquote _
    · rw [hlength, List.length_append, List.length_cons] at hopen
      omega
  | sign =>
    refine ⟨?_, rfl⟩
    rw [shape_sign hkind, Prod.mk.injEq] at hshape
    cases rest with
    | nil => rfl
    | cons x rest =>
      -- the second sign of a pair
      have hlength := hshape.2
      split at hlength
      · rename_i hpair
        obtain rfl : rest = [] := List.eq_nil_of_length_eq_zero (by rw [List.length_cons] at hlength; omega)
        exact kindAfter_of_pair (by simpa using hpair)
      · simp at hlength

/-- No token runs on behind a token. -/
lemma Token.EndsBefore.head?_runsOn {t : Token} (h : t.EndsBefore behind)
    (hfirst : t.text.head?.any (runsOn kind) = false) :
    behind.head?.any (runsOn (kindBehind kind t.text)) = false := by
  cases behind with
  | nil => rfl
  | cons c behind =>
    obtain ⟨hkind, hc⟩ := h.kindBehind_eq hfirst
    rwa [hkind, List.head?_cons, Option.any_some]

/-! ### Texts with names replaced -/

/-- A text behind a token of a kind is another one with names replaced by look-ups.  The captured
variables among them are `names`, in this order. -/
inductive Replaces : TokenKind → List Text → Text → Text → Prop
  | nil {kind : TokenKind} : Replaces kind [] [] []
  | char {kind : TokenKind} {names : List Text} (c : Char) {v v' : Text}
      (h : Replaces (kindAfter kind c) names v v') : Replaces kind names (c :: v) (c :: v')
  | name {kind : TokenKind} {names : List Text} {n v v' : Text} (hword : IsWord n)
      (hno : isReserved n = false) (hfirst : n.head?.any (runsOn kind) = false)
      (hbehind : v.head?.any Text.isWordChar = false) (h : Replaces .name names v v') :
      Replaces kind ([n].filter isCaptured ++ names) (n ++ v) (lookup n ++ v')

/-- A text behind a token of a kind is another one with names replaced by look-ups, those of captured
variables among `captured`. -/
inductive Spliced (captured : List Text) : TokenKind → Text → Text → Prop
  | nil {kind : TokenKind} : Spliced captured kind [] []
  | char {kind : TokenKind} (c : Char) {v v' : Text} (h : Spliced captured (kindAfter kind c) v v') :
      Spliced captured kind (c :: v) (c :: v')
  | name {kind : TokenKind} {n v v' : Text} (hword : IsWord n) (hno : isReserved n = false)
      (hcaptured : isCaptured n = true → n ∈ captured) (hfirst : n.head?.any (runsOn kind) = false)
      (hbehind : v.head?.any Text.isWordChar = false) (h : Spliced captured .name v v') :
      Spliced captured kind (n ++ v) (lookup n ++ v')

variable {names captured : List Text} {v v' : Text}

lemma Replaces.append_left {front : Text} (h : Replaces (kindBehind kind front) names v v') :
    Replaces kind names (front ++ v) (front ++ v') := by
  induction front generalizing kind with
  | nil => exact h
  | cons c front ih => exact (ih h).char c

lemma Replaces.spliced (h : Replaces kind names v v') (hsub : ∀ n ∈ names, n ∈ captured) :
    Spliced captured kind v v' := by
  induction h with
  | nil => exact .nil
  | char c _ ih => exact (ih hsub).char c
  | @name _ names n _ _ hword hno hfirst hbehind _ ih =>
    refine .name hword hno (fun hcaptured => hsub n ?_) hfirst hbehind
      (ih fun m hm => hsub m (List.mem_append_right _ hm))
    exact List.mem_append_left _ (List.mem_filter.mpr ⟨.head _, hcaptured⟩)

/-- Replacing marked tokens in front of a text. -/
lemma replaces_replacedText {marked : List (Token × Bool)} (hlexed : Lexed (marked.map Prod.fst))
    (hmarked : NamesMarked marked)
    (hno : ∀ t, (t, true) ∈ marked → isReserved t.text = false)
    (hfirst : ((marked.map Prod.fst).flatMap Token.text).head?.any (runsOn kind) = false)
    (hv : v.head?.any Text.isWordChar = false)
    (h : Replaces (kindBehind kind ((marked.map Prod.fst).flatMap Token.text)) names v v') :
    Replaces kind (capturedNames marked ++ names) ((marked.map Prod.fst).flatMap Token.text ++ v)
      (replacedText marked ++ v') := by
  induction marked generalizing kind with
  | nil => exact h
  | cons m rest ih =>
    obtain ⟨t, free⟩ := m
    rw [List.map_cons] at hlexed
    rw [List.map_cons, List.flatMap_cons] at hfirst h ⊢
    rw [kindBehind_append] at h
    cases hlexed with
    | cons hend hlexed =>
      have hfirst' : t.text.head?.any (runsOn kind) = false := by
        obtain ⟨c, text, htext⟩ := List.exists_cons_of_ne_nil hend.text_ne_nil
        rw [htext, List.cons_append, List.head?_cons] at hfirst
        rwa [htext, List.head?_cons]
      have hrest := ih hlexed (fun u free hu => hmarked u free (List.mem_cons_of_mem _ hu))
        (fun u hu => hno u (List.mem_cons_of_mem _ hu)) (hend.head?_runsOn hfirst') h
      have hreplaced : replacedText ((t, free) :: rest) =
          (if free then lookup t.text else t.text) ++ replacedText rest := rfl
      rw [hreplaced, List.append_assoc, List.append_assoc, ← List.singleton_append,
        capturedNames_append, List.append_assoc]
      cases free with
      | false => exact hrest.append_left
      | true =>
        have hname := hmarked t true (.head _) rfl
        have hword := isWord_of_endsBefore hend hname
        rw [hword.kindBehind_eq hfirst'] at hrest
        have hkind : t.kind = .name := by simpa [Token.isName] using hname
        obtain ⟨kind, text⟩ := t
        obtain rfl : kind = .name := hkind
        have hcaptured : capturedNames [(⟨.name, text⟩, true)] = [text].filter isCaptured := by
          by_cases h : isCaptured text = true <;> simp [capturedNames, h]
        rw [hcaptured]
        refine .name hword (hno _ (.head _)) hfirst' ?_ hrest
        have hnext := (endsBefore_name_iff hword).mp hend
        rw [List.head?_append]
        cases hhead : ((rest.map Prod.fst).flatMap Token.text).head? with
        | none => exact hv
        | some c =>
          rw [hhead] at hnext
          exact hnext

/-- Only names that are not reserved are marked in a span. -/
lemma isReserved_of_mem_markSpan {scope : Scope} {kind : SpanKind} {body : Text} {t : Token}
    (h : (t, true) ∈ markSpan scope kind body) : isReserved t.text = false := by
  unfold markSpan at h
  split at h
  · cases hstatement : statementTag? (tokens body) with
    | none =>
      rw [markStatement, hstatement] at h
      exact (isVariable_of_mem_markFree h).2.2.1
    | some statement =>
      rw [markStatement_eq hstatement] at h
      exact (isVariable_of_mem_markFree h).2.2.1
  · exact (isVariable_of_mem_markFree h).2.2.1

/-- The opening delimiter of a span ends with a sign. -/
lemma kindBehind_start (kind : TokenKind) (span : SpanKind) :
    kindBehind kind (standard.start span) = .sign := by
  cases kind <;> cases span <;> decide

/-- A text with its pieces closed. -/
lemma replaces_capturePieces {text : Text} {ps : List Piece} (h : Splits text ps) (s : Scope)
    (kind : TokenKind) :
    Replaces kind (capturePieces standard s ps).captured text (capturePieces standard s ps).text := by
  induction h generalizing s kind with
  | nil => exact .nil
  | character _ _ ih => exact .char _ (ih s _)
  | skipped _ _ _ ih => exact (ih s _).append_left
  | @span span inside rest ps _ hnot _ ih =>
    obtain ⟨front, body, back, rfl, hsigned⟩ := exists_signed inside
    simp only [capturePieces, capturePiece_enclosed _ hsigned]
    have hmap := markSpan_tokens s span body
    have hjoin : ((markSpan s span body).map Prod.fst).flatMap Token.text = body := by
      rw [hmap, tokens_join]
    have hfront : kindBehind (kindBehind kind (standard.start span)) front = .sign := by
      rw [kindBehind_start]
      obtain ⟨rfl, -⟩ | ⟨c, hc, rfl⟩ := hsigned.front_eq
      · rfl
      · obtain rfl | rfl := eq_of_isControlSign hc
        · decide
        · decide
    -- behind the body no name goes on
    have hbehind : (back ++ (standard.stop span ++ rest)).head?.any Text.isWordChar = false := by
      obtain ⟨rfl, -⟩ | ⟨c, hc, rfl⟩ := hsigned.back_eq
      · cases span <;> rfl
      · obtain rfl | rfl := eq_of_isControlSign hc
        · rfl
        · rfl
    have hrest := ih (scopeBehind s span body)
      (kindBehind (kindBehind (kindBehind .sign body) back) (standard.stop span))
    have hsign (text : Text) : text.head?.any (runsOn .sign) = false := by cases text <;> rfl
    have hreplaces := replaces_replacedText (hmap ▸ lexed_tokens body)
      (variablesMarked_markSpan s span body).namesMarked (fun t ht => isReserved_of_mem_markSpan ht)
      (hsign _) hbehind (hjoin.symm ▸ hrest.append_left.append_left)
    rw [hjoin, ← hfront] at hreplaces
    have hwhole := hreplaces.append_left.append_left
    simpa only [enclosed, List.append_assoc] using hwhole

/-- A closed text is the text with the captured names replaced. -/
lemma replaces_captureIn {s : Scope} {text : Text} {r : Captured}
    (h : captureIn standard s text = .ok r) (kind : TokenKind) : Replaces kind r.captured text r.text := by
  unfold captureIn at h
  split at h
  · cases h
  rename_i ps hps
  cases h
  exact replaces_capturePieces (pieces_eq_ok_iff.mp hps) s kind

lemma spliced_captureIn {s : Scope} {text : Text} {r : Captured}
    (h : captureIn standard s text = .ok r) (kind : TokenKind) : Spliced r.captured kind text r.text :=
  (replaces_captureIn h kind).spliced fun _ hn => hn

/-! ### Parts of a closed text -/

/-- The characters of a look-up. -/
lemma isWordChar_or_of_mem_lookup (hword : IsWord name) (h : c ∈ lookup name) :
    Text.isWordChar c = true ∨ c ∈ ['.', '[', '"', ']'] := by
  have hpath {path : Text} (hall : path.all (fun x => decide (Text.isWordChar x = true ∨
      x ∈ ['.', '[', '"', ']'])) = true) (h : c ∈ path) : Text.isWordChar c = true ∨ c ∈ ['.', '[', '"', ']'] :=
    forall_mem_of_all hall c h
  unfold lookup at h
  split at h
  · exact hpath (by decide) h
  split at h
  · exact hpath (by decide) h
  · rw [List.mem_append, List.mem_append] at h
    obtain (h | h) | h := h
    · exact hpath (by decide) h
    · exact .inl (hword.isWordChar c h)
    · exact hpath (by decide) h

/-- A character that is not in the front of a text stands behind it. -/
lemma exists_append_of_notMem {a b front : Text} (h : a ++ b = front ++ c :: behind) (ha : c ∉ a) :
    ∃ more, front = a ++ more ∧ b = more ++ c :: behind := by
  obtain ⟨more, rfl, hb⟩ | ⟨other, rfl, hother⟩ := List.append_eq_append_iff.mp h
  · exact ⟨more, rfl, hb⟩
  · cases other with
    | nil => exact ⟨[], by simp, by simpa using hother.symm⟩
    | cons x other =>
      obtain ⟨rfl, -⟩ := List.cons.inj hother
      exact absurd (by simp) ha

namespace Spliced

/-- A text without the first character of the look-ups stands in a closed text where it stood before. -/
lemma exists_behind {front : Text} (h : Spliced captured kind v (front ++ behind)) (hfront : 'g' ∉ front) :
    ∃ other, v = front ++ other ∧ Spliced captured (kindBehind kind front) other behind := by
  induction front generalizing v kind with
  | nil => exact ⟨v, rfl, h⟩
  | cons c front ih =>
    rw [List.cons_append] at h
    generalize heq : c :: (front ++ behind) = v' at h
    cases h with
    | nil => cases heq
    | char d h =>
      obtain ⟨rfl, rfl⟩ := List.cons.inj heq
      obtain ⟨other, rfl, hother⟩ := ih h fun hmem => hfront (.tail _ hmem)
      exact ⟨other, rfl, hother⟩
    | @name n _ _ _ _ _ _ _ h =>
      have hhead := congrArg List.head? heq
      rw [List.head?_append, head?_lookup, List.head?_cons, Option.some_or, Option.some.injEq] at hhead
      exact absurd (hhead ▸ List.mem_cons_self) hfront

/-- A closed text is cut at a character that no look-up has, and the text is cut there as well. -/
lemma exists_cut {front : Text} (h : Spliced captured kind v (front ++ c :: behind))
    (hword : Text.isWordChar c = false) (hsign : c ∉ ['.', '[', '"', ']']) :
    ∃ begun other, v = begun ++ c :: other ∧ Spliced captured kind begun front ∧
      Spliced captured (kindBehind kind (begun ++ [c])) other behind := by
  generalize heq : front ++ c :: behind = v' at h
  induction h generalizing front with
  | nil => simp at heq
  | char d h ih =>
    cases front with
    | nil =>
      obtain ⟨rfl, rfl⟩ := List.cons.inj heq
      exact ⟨[], _, rfl, .nil, h⟩
    | cons x front =>
      obtain ⟨rfl, rfl⟩ := List.cons.inj heq
      obtain ⟨begun, other, rfl, hbegun, hother⟩ := ih rfl
      exact ⟨x :: begun, other, rfl, .char x hbegun, hother⟩
  | @name kind n v v' hname hno hcaptured hfirst hbehind h ih =>
    have hlookup : c ∉ lookup n := fun hmem =>
      (isWordChar_or_of_mem_lookup hname hmem).elim (by simp [hword]) hsign
    obtain ⟨more, rfl, rfl⟩ := exists_append_of_notMem heq.symm hlookup
    obtain ⟨begun, other, rfl, hbegun, hother⟩ := ih rfl
    refine ⟨n ++ begun, other, by simp, .name hname hno hcaptured hfirst ?_ hbegun, ?_⟩
    · cases begun with
      | nil => rfl
      | cons x begun => exact hbehind
    · rwa [List.append_assoc, kindBehind_append, hname.kindBehind_eq hfirst]

/-- A text that no token runs on with is read from its beginning. -/
lemma restart (h : Spliced captured kind v v') (hfirst : v.head?.any (runsOn kind) = false) :
    Spliced captured .sign v v' := by
  cases h with
  | nil => exact .nil
  | char c h =>
    rw [kindAfter_of_not_runsOn (by simpa using hfirst) []] at h
    exact .char c h
  | @name _ n _ _ hword hno hcaptured _ hbehind h =>
    exact .name hword hno hcaptured (by cases n <;> rfl) hbehind h

lemma eq_nil_iff (h : Spliced captured kind v v') : v = [] ↔ v' = [] := by
  cases h with
  | nil => rfl
  | char => simp
  | @name _ n _ _ hword =>
    obtain ⟨more, hlookup⟩ := List.head?_eq_some_iff.mp (head?_lookup n)
    cases hword
    simp [hlookup]

end Spliced

/-! ### Blanks around a closed text -/

lemma not_isBlank_of_mem_lookup (hword : IsWord name) (h : c ∈ lookup name) : Text.isBlank c = false := by
  obtain hc | hc := isWordChar_or_of_mem_lookup hword h
  · by_contra hblank
    rw [isWordChar_of_isBlank (by simpa using hblank)] at hc
    cases hc
  · exact forall_mem_of_all (p := fun x => Text.isBlank x = false) (by decide) c hc

lemma not_isBlank_of_isWord (hword : IsWord name) (h : c ∈ name) : Text.isBlank c = false := by
  by_contra hblank
  have hc := hword.isWordChar c h
  rw [isWordChar_of_isBlank (by simpa using hblank)] at hc
  cases hc

lemma trimEnd_cons (c : Char) (text : Text) :
    Text.trimEnd (c :: text) =
      if Text.trimEnd text = [] ∧ Text.isBlank c = true then [] else c :: Text.trimEnd text := by
  simp only [Text.trimEnd, List.reverse_cons, List.dropWhile_append, List.isEmpty_iff, List.reverse_eq_nil_iff]
  by_cases hempty : text.reverse.dropWhile Text.isBlank = []
  · by_cases hblank : Text.isBlank c = true <;> simp [hempty, hblank]
  · simp [hempty]

lemma trimEnd_append {front : Text} (hfront : ∀ c ∈ front, Text.isBlank c = false) (text : Text) :
    Text.trimEnd (front ++ text) = front ++ Text.trimEnd text := by
  induction front with
  | nil => rfl
  | cons c front ih =>
    rw [List.forall_mem_cons] at hfront
    rw [List.cons_append, trimEnd_cons, if_neg (by simp [hfront.1]), ih hfront.2]
    rfl

lemma trimEnd_isPrefix (text : Text) : Text.trimEnd text <+: text := by
  rw [Text.trimEnd, ← List.reverse_suffix, List.reverse_reverse]
  exact List.dropWhile_suffix _

namespace Spliced

/-- Blanks in front of a closed text stand in front of the text. -/
lemma trimStart (h : Spliced captured kind v v') (hkind : ∀ c, runsOn kind c = true → Text.isBlank c = true) :
    Spliced captured .sign (Text.trimStart v) (Text.trimStart v') := by
  induction h with
  | nil => exact .nil
  | @char kind c v v' h ih =>
    by_cases hblank : Text.isBlank c = true
    · rw [Text.trimStart, Text.trimStart, List.dropWhile_cons_of_pos hblank, List.dropWhile_cons_of_pos hblank]
      refine ih fun d hd => ?_
      unfold kindAfter at hd
      split at hd
      · exact hkind d hd
      · rwa [Token.shape, if_pos hblank] at hd
    · rw [Text.trimStart, Text.trimStart, List.dropWhile_cons_of_neg hblank, List.dropWhile_cons_of_neg hblank]
      exact (h.char c).restart (by simpa using mt (hkind c) hblank)
  | @name kind n v v' hword hno hcaptured hfirst hbehind h =>
    have hstart {w x : Text} (hx : ∀ c ∈ x, Text.isBlank c = false) (hne : x ≠ []) :
        Text.trimStart (x ++ w) = x ++ w := by
      obtain ⟨c, x, rfl⟩ := List.exists_cons_of_ne_nil hne
      rw [Text.trimStart, List.cons_append, List.dropWhile_cons_of_neg (by simp [hx c (.head _)])]
    have hname : Spliced captured kind (n ++ v) (lookup n ++ v') :=
      .name hword hno hcaptured hfirst hbehind h
    rw [hstart (fun c => not_isBlank_of_isWord hword) (by cases hword; simp),
      hstart (fun c => not_isBlank_of_mem_lookup hword) (fun hnil => by simpa [hnil] using head?_lookup n)]
    refine hname.restart ?_
    cases hword
    exact hfirst

/-- Blanks behind a closed text stand behind the text. -/
lemma trimEnd (h : Spliced captured kind v v') :
    Spliced captured kind (Text.trimEnd v) (Text.trimEnd v') := by
  induction h with
  | nil => exact .nil
  | char c _ ih =>
    rw [trimEnd_cons, trimEnd_cons]
    simp only [ih.eq_nil_iff]
    split
    · exact .nil
    · exact ih.char c
  | @name kind n v v' hword hno hcaptured hfirst hbehind _ ih =>
    rw [trimEnd_append fun c => not_isBlank_of_isWord hword,
      trimEnd_append fun c => not_isBlank_of_mem_lookup hword]
    refine .name hword hno hcaptured hfirst ?_ ih
    obtain ⟨more, hmore⟩ := trimEnd_isPrefix v
    cases htrim : Text.trimEnd v with
    | nil => rfl
    | cons c text =>
      rw [← hmore, htrim] at hbehind
      exact hbehind

lemma trim (h : Spliced captured .sign v v') : Spliced captured .sign (Text.trim v) (Text.trim v') :=
  (h.trimStart fun c hc => by cases hc).trimEnd

end Spliced

end ComponentTags
