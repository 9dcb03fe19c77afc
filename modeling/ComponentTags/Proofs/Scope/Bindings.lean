/-
# Bindings of a replaced statement

Replacing variables of a statement by look-ups changes neither the names that the statement binds nor
the regions of the tokens that stay (`KeepsRegions`).  A look-up brings brackets and names of its own, so each
of the functions that read bindings off the tokens is followed over the tokens of a look-up; what it
sees behind them is what it saw behind the variable.

A variable is never replaced where it is bound: the targets of loops and assignments are labels, and
the names that macros and imports bind are not free in their statements.
-/
import ComponentTags.Proofs.Scope.Lexed
import Mathlib.Data.List.TakeWhile

namespace ComponentTags

/-! ### Tokens of names and of look-ups -/

namespace Token

variable {kind : TokenKind} {text sign name : Text}

lemma isSign_mk : isSign ⟨kind, text⟩ sign = (decide (kind = .sign) && decide (text = sign)) := rfl

variable {t : Token}

lemma isSign_of_isName (h : t.isName = true) : t.isSign sign = false := by
  have hkind : t.kind = .name := by simpa [isName] using h
  simp [isSign, hkind]

lemma opens_of_isName (h : t.isName = true) : t.opens = false := by
  simp [opens, isSign_of_isName h]

lemma closes_of_isName (h : t.isName = true) : t.closes = false := by
  simp [closes, isSign_of_isName h]

/-- A variable is no keyword. -/
lemma isNamed_of_not_keyword (hkeyword : keywords.contains t.text = false)
    (hname : keywords.contains name = true) : t.isNamed name = false := by
  by_contra h
  obtain ⟨-, htext⟩ : t.kind = .name ∧ t.text = name := by simpa [isNamed] using h
  rw [htext, hname] at hkeyword
  cases hkeyword

end Token

/-- Only variables are marked: names that are no keywords. -/
def VariablesMarked (marked : List (Token × Bool)) : Prop :=
  ∀ t, (t, true) ∈ marked → t.isName = true ∧ keywords.contains t.text = false

variable {t : Token} {free : Bool} {marked : List (Token × Bool)}

lemma VariablesMarked.tail (h : VariablesMarked ((t, free) :: marked)) : VariablesMarked marked :=
  fun t ht => h t (by simp [ht])

lemma VariablesMarked.namesMarked (h : VariablesMarked marked) : NamesMarked marked := by
  rintro t free hmem rfl
  exact (h t hmem).1

lemma VariablesMarked.head (h : VariablesMarked ((t, true) :: marked)) :
    t.isName = true ∧ keywords.contains t.text = false := h t (by simp)

/-- A look-up begins with the name of the context. -/
lemma lookupTokens_cons (name : Text) :
    ∃ us, lookupTokens name = ⟨.name, contextName⟩ :: us := by
  unfold lookupTokens
  split
  · exact ⟨_, rfl⟩
  split
  · exact ⟨_, rfl⟩
  · exact ⟨_, rfl⟩

/-- A sign in front is there before and after the replacement. -/
lemma head?_isSign_expanded (h : VariablesMarked marked) (sign : Text) :
    (marked.flatMap expanded).head?.any (·.isSign sign) =
      (marked.map Prod.fst).head?.any (·.isSign sign) := by
  cases marked with
  | nil => rfl
  | cons m rest =>
    obtain ⟨t, free⟩ := m
    cases free with
    | false => rfl
    | true =>
      have ht : t.isSign sign = false := Token.isSign_of_isName h.head.1
      obtain ⟨us, hus⟩ := lookupTokens_cons t.text
      simp [expanded, hus, ht, Token.isSign_mk]

/-! ### Regions that agree -/

/-- The regions of marked significant tokens agree with regions of the tokens that stand for them:
each token that is not replaced has the same region. -/
inductive Aligned : List (Token × Bool) → List Region → List Region → Prop
  | nil {regions regions' : List Region} : Aligned [] regions regions'
  | kept {t : Token} {rest : List (Token × Bool)} {regions regions' : List Region}
      (hregion : regions.headD .outer = regions'.headD .outer)
      (next : Aligned rest regions.tail regions'.tail) : Aligned ((t, false) :: rest) regions regions'
  | replaced {t : Token} {rest : List (Token × Bool)} {regions regions' : List Region}
      (next : Aligned rest regions.tail (regions'.drop (lookupTokens t.text).length)) :
      Aligned ((t, true) :: rest) regions regions'

/-- Tokens of one region. -/
lemma aligned_map_const (region : Region) (marked : List (Token × Bool)) :
    Aligned marked ((marked.map Prod.fst).map fun _ => region)
      ((marked.flatMap expanded).map fun _ => region) := by
  induction marked with
  | nil => exact .nil
  | cons m rest ih =>
    obtain ⟨t, free⟩ := m
    cases free with
    | false => exact .kept rfl ih
    | true =>
      refine .replaced ?_
      rw [List.flatMap_cons, List.map_append]
      rw [List.drop_left' (by simp [expanded])]
      exact ih

/-- Without regions every token is in the outer one. -/
lemma aligned_nil (marked : List (Token × Bool)) : Aligned marked [] [] := by
  induction marked with
  | nil => exact .nil
  | cons m rest ih =>
    obtain ⟨t, free⟩ := m
    cases free with
    | false => exact .kept rfl ih
    | true => exact .replaced (by simpa using ih)

/-- No label is marked. -/
inductive Unlabelled : List (Token × Bool) → List Region → Prop
  | nil {regions : List Region} : Unlabelled [] regions
  | cons {t : Token} {free : Bool} {rest : List (Token × Bool)} {regions : List Region}
      (hfree : free = true → regions.headD .outer ≠ .label)
      (next : Unlabelled rest regions.tail) : Unlabelled ((t, free) :: rest) regions

/-- Tokens in front that are labels are not replaced. -/
lemma exists_of_unlabelled {front behind : List Token} {regions : List Region}
    (h : Unlabelled marked ((front.map fun _ => .label) ++ regions))
    (hmarked : marked.map Prod.fst = front ++ behind) :
    ∃ rest, marked = front.map (·, false) ++ rest ∧ rest.map Prod.fst = behind ∧
      Unlabelled rest regions := by
  induction front generalizing marked with
  | nil => exact ⟨marked, rfl, hmarked, h⟩
  | cons u front ih =>
    cases h with
    | nil => cases hmarked
    | @cons t free rest _ hfree next =>
      simp only [List.map_cons, List.cons_append, List.cons.injEq] at hmarked
      obtain ⟨rfl, hrest⟩ := hmarked
      obtain ⟨rest, rfl, hbehind, hnext⟩ := ih next hrest
      refine ⟨rest, ?_, hbehind, hnext⟩
      have hno : free = false := by
        by_contra hfree'
        exact hfree (by simpa using hfree') rfl
      simp [hno]

/-- Labels in front of tokens whose regions agree. -/
lemma Aligned.labels {front : List Token} {regions regions' : List Region}
    (h : Aligned marked regions regions') :
    Aligned (front.map (·, false) ++ marked) ((front.map fun _ => .label) ++ regions)
      ((front.map fun _ => .label) ++ regions') := by
  induction front with
  | nil => exact h
  | cons u front ih => exact .kept rfl ih

lemma flatMap_expanded_kept (front : List Token) :
    (front.map (·, false)).flatMap expanded = front := by
  induction front with
  | nil => rfl
  | cons t front ih => simp [expanded, ih]

/-! ### Assignments -/

lemma beforeSign?_append {sign : Text} {targets more : List Token}
    (htargets : ∀ u ∈ targets, u.isSign sign = false) (ht : t.isSign sign = true) :
    beforeSign? sign (targets ++ t :: more) = some targets := by
  induction targets with
  | nil => simp [beforeSign?, ht]
  | cons u targets ih =>
    have hu := htargets u (by simp)
    simp [beforeSign?, hu, ih fun u hu => htargets u (by simp [hu])]

lemma exists_of_beforeSign?_eq_some {sign : Text} {ts targets : List Token}
    (h : beforeSign? sign ts = some targets) :
    ∃ t more, ts = targets ++ t :: more ∧ t.isSign sign = true ∧
      ∀ u ∈ targets, u.isSign sign = false := by
  induction ts generalizing targets with
  | nil => cases h
  | cons u ts ih =>
    rw [beforeSign?] at h
    split at h
    · rename_i hu
      cases h
      exact ⟨u, ts, rfl, hu, by simp⟩
    · rename_i hu
      obtain ⟨targets, htargets, rfl⟩ := Option.map_eq_some_iff.mp h
      obtain ⟨t, more, rfl, ht, hno⟩ := ih htargets
      exact ⟨t, more, rfl, ht, by simpa [hu] using hno⟩

lemma beforeSign?_eq_none_iff {sign : Text} {ts : List Token} :
    beforeSign? sign ts = none ↔ ∀ t ∈ ts, t.isSign sign = false := by
  induction ts with
  | nil => simp [beforeSign?]
  | cons u ts ih =>
    by_cases hu : u.isSign sign = true
    · simp [beforeSign?, hu]
    · simp [beforeSign?, hu, ih]

/-- An assignment with an equals sign has the same targets. -/
lemma beforeSign?_expanded_eq_none
    (hnone : beforeSign? "=" (marked.map Prod.fst) = none) :
    beforeSign? "=" (marked.flatMap expanded) = none := by
  rw [beforeSign?_eq_none_iff] at hnone ⊢
  intro u hu
  obtain ⟨⟨t, free⟩, hmem, hu⟩ := List.mem_flatMap.mp hu
  cases free with
  | false =>
    obtain rfl : u = t := by simpa [expanded] using hu
    exact hnone u (List.mem_map_of_mem hmem)
  | true =>
    simp only [expanded, lookupTokens] at hu
    split at hu
    · simp only [List.mem_cons, List.not_mem_nil, or_false] at hu
      rcases hu with rfl | rfl | rfl <;> rfl
    split at hu
    · simp only [List.mem_cons, List.not_mem_nil, or_false] at hu
      rcases hu with rfl | rfl | rfl <;> rfl
    · simp only [List.mem_cons, List.not_mem_nil, or_false] at hu
      rcases hu with rfl | rfl | rfl | rfl | rfl | rfl <;> rfl

/-! ### Loops -/

lemma iterationRegions_lookup (name : Text) (depth : Int) (rest : List Token) :
    iterationRegions depth (lookupTokens name ++ rest) =
      ((lookupTokens name).map fun _ => .outer) ++ iterationRegions depth rest := by
  have quiet : ∀ {u : Token} {depth : Int} {us : List Token}, u.opens = false → u.closes = false →
      u.isNamed "if" = false → iterationRegions depth (u :: us) = .outer :: iterationRegions depth us := by
    intro u depth us hopens hcloses hif
    rw [iterationRegions, hopens, hcloses, hif, Bool.and_false]
    rfl
  have hopen : ∀ {depth : Int} {us : List Token},
      iterationRegions depth (⟨.sign, ['[']⟩ :: us) = .outer :: iterationRegions (depth + 1) us :=
    rfl
  have hclose : ∀ {depth : Int} {us : List Token},
      iterationRegions depth (⟨.sign, [']']⟩ :: us) = .outer :: iterationRegions (depth - 1) us :=
    rfl
  unfold lookupTokens
  split
  · simp only [List.cons_append, List.nil_append, List.map_cons, List.map_nil]
    rw [quiet rfl rfl rfl, quiet rfl rfl rfl, quiet rfl rfl rfl]
  split
  · simp only [List.cons_append, List.nil_append, List.map_cons, List.map_nil]
    rw [quiet rfl rfl rfl, quiet rfl rfl rfl, quiet rfl rfl rfl]
  · simp only [List.cons_append, List.nil_append, List.map_cons, List.map_nil]
    rw [quiet rfl rfl rfl, quiet rfl rfl rfl, quiet rfl rfl rfl, hopen, quiet rfl rfl rfl, hclose,
      Int.add_sub_cancel]

/-- The regions behind the word `in` of a loop. -/
lemma aligned_iterationRegions (h : VariablesMarked marked) (depth : Int) :
    Aligned marked (iterationRegions depth (marked.map Prod.fst))
      (iterationRegions depth (marked.flatMap expanded)) := by
  induction marked generalizing depth with
  | nil => exact .nil
  | cons m rest ih =>
    obtain ⟨t, free⟩ := m
    have ih := ih h.tail
    cases free with
    | false =>
      simp only [List.map_cons, List.flatMap_cons, expanded, List.cons_append, List.nil_append,
        iterationRegions]
      split
      · exact .kept rfl (ih _)
      split
      · exact .kept rfl (ih _)
      split
      · exact .kept rfl (aligned_map_const .inner rest)
      · exact .kept rfl (ih _)
    | true =>
      obtain ⟨hname, hkeyword⟩ := h.head
      have hif : t.isNamed "if" = false := Token.isNamed_of_not_keyword hkeyword (by decide)
      simp only [List.map_cons, List.flatMap_cons, expanded, iterationRegions_lookup]
      rw [iterationRegions]
      simp only [Token.opens_of_isName hname, Token.closes_of_isName hname, hif, Bool.and_false,
        Bool.false_eq_true, if_false]
      refine .replaced ?_
      rw [List.drop_left' (by simp)]
      exact ih _

/-! ### Local assignments -/

lemma drop_assignmentRegions (names : List Text) (front rest : List Token) :
    (assignmentRegions names (front ++ rest)).drop front.length = assignmentRegions names rest := by
  induction front with
  | nil => rfl
  | cons u front ih => simpa [assignmentRegions] using ih

lemma assignmentTargets_lookup (name : Text) (previous : Option Token) (rest : List Token) :
    ∃ last, last.isSign "," = false ∧
      assignmentTargets previous (lookupTokens name ++ rest) =
        assignmentTargets (some last) rest := by
  -- what is no name, stands in front of no equals sign or behind no comma is passed
  have quiet : ∀ {previous : Option Token} {u : Token} {us : List Token},
      (u.isName && us.head?.any (·.isSign "=") && previous.all (·.isSign ",")) = false →
      assignmentTargets previous (u :: us) = assignmentTargets (some u) us := by
    intro previous u us hno
    rw [assignmentTargets, hno]
    rfl
  unfold lookupTokens
  split
  · refine ⟨⟨.name, "dot"⟩, rfl, ?_⟩
    simp only [List.cons_append, List.nil_append]
    rw [quiet rfl, quiet rfl, quiet (by rw [Bool.and_comm]; rfl)]
  split
  · refine ⟨⟨.name, "root"⟩, rfl, ?_⟩
    simp only [List.cons_append, List.nil_append]
    rw [quiet rfl, quiet rfl, quiet (by rw [Bool.and_comm]; rfl)]
  · refine ⟨⟨.sign, [']']⟩, rfl, ?_⟩
    simp only [List.cons_append, List.nil_append]
    rw [quiet rfl, quiet rfl, quiet rfl, quiet rfl, quiet rfl, quiet rfl]

/-- The names that a `with` statement binds are labels, so they are kept, and no others are bound. -/
lemma assignments_expanded {names : List Text} {previous previous' : Option Token}
    (h : VariablesMarked marked)
    (hunlabelled : Unlabelled marked (assignmentRegions names (marked.map Prod.fst)))
    (hnames : ∀ n ∈ assignmentTargets previous (marked.map Prod.fst), n ∈ names)
    (hprevious : previous'.all (·.isSign ",") = previous.all (·.isSign ",")) :
    assignmentTargets previous' (marked.flatMap expanded) =
        assignmentTargets previous (marked.map Prod.fst) ∧
      Aligned marked (assignmentRegions names (marked.map Prod.fst))
        (assignmentRegions names (marked.flatMap expanded)) := by
  induction marked generalizing previous previous' with
  | nil => exact ⟨rfl, .nil⟩
  | cons m rest ih =>
    obtain ⟨t, free⟩ := m
    simp only [List.map_cons, assignmentRegions] at hunlabelled
    simp only [List.map_cons, assignmentTargets] at hnames
    have hnext := head?_isSign_expanded h.tail "="
    cases hunlabelled with
    | cons hfree hunlabelled =>
      simp only [List.headD_cons, List.tail_cons] at hfree hunlabelled
      cases free with
      | false =>
        simp only [List.map_cons, List.flatMap_cons, expanded, List.cons_append, List.nil_append,
          assignmentTargets, assignmentRegions, hnext, hprevious]
        split at hnames
        · rename_i htarget
          rw [if_pos htarget, if_pos htarget]
          obtain ⟨htargets, haligned⟩ := ih h.tail hunlabelled
            (fun n hn => hnames n (List.mem_cons_of_mem _ hn)) rfl
          exact ⟨by rw [htargets], .kept rfl haligned⟩
        · rename_i htarget
          rw [if_neg htarget, if_neg htarget]
          obtain ⟨htargets, haligned⟩ := ih h.tail hunlabelled hnames rfl
          exact ⟨by rw [htargets], .kept rfl haligned⟩
      | true =>
        -- a variable in front of an equals sign is no target, since targets are labels
        have hno : ¬(t.isName && (List.map Prod.fst rest).head?.any (·.isSign "=") &&
            previous.all (·.isSign ",")) = true := by
          intro htarget
          rw [if_pos htarget] at hnames
          simp only [Bool.and_eq_true] at htarget
          have hlabel := List.contains_iff_mem.mpr (hnames t.text (List.mem_cons_self ..))
          rw [hlabel, htarget.1.2] at hfree
          exact hfree rfl rfl
        rw [if_neg hno] at hnames
        obtain ⟨last, hlast, hlookup⟩ :=
          assignmentTargets_lookup t.text previous' (rest.flatMap expanded)
        have hcomma : (some last).all (·.isSign ",") = (some t).all (·.isSign ",") :=
          hlast.trans (Token.isSign_of_isName h.head.1).symm
        obtain ⟨htargets, haligned⟩ := ih h.tail hunlabelled hnames hcomma
        simp only [List.map_cons, List.flatMap_cons, expanded, assignmentTargets, hlookup]
        rw [if_neg hno, htargets]
        refine ⟨rfl, .replaced ?_⟩
        rw [drop_assignmentRegions]
        exact haligned

/-! ### Parameters -/

/-- Whether a token stands where the name of a parameter may follow. -/
def Token.introduces (t : Token) : Bool := t.isSign "(" || t.isSign ","

lemma Token.introduces_of_isName (h : t.isName = true) : t.introduces = false := by
  rw [introduces, isSign_of_isName h, isSign_of_isName h]
  rfl

lemma parameters_cons (depth : Nat) (previous t : Token) (rest : List Token) :
    parameters depth previous (t :: rest) =
      if t.opens then parameters (depth + 1) t rest
      else if t.closes then if depth = 1 then [] else parameters (depth - 1) t rest
      else if depth = 1 && t.isName && previous.introduces then
        t.text :: parameters depth t rest
      else parameters depth t rest := rfl

lemma parameters_lookup (name : Text) {depth : Nat} (previous : Token) (rest : List Token)
    (hdepth : 0 < depth) (hprevious : (decide (depth = 1) && previous.introduces) = false) :
    ∃ last, last.introduces = false ∧
      parameters depth previous (lookupTokens name ++ rest) = parameters depth last rest := by
  have quiet : ∀ {depth : Nat} {previous u : Token} {us : List Token}, u.opens = false →
      u.closes = false → (decide (depth = 1) && u.isName && previous.introduces) = false →
      parameters depth previous (u :: us) = parameters depth u us := by
    intro depth previous u us hopens hcloses hno
    rw [parameters_cons, hopens, hcloses, hno]
    rfl
  have hfirst : (decide (depth = 1) && Token.isName ⟨.name, contextName⟩ && previous.introduces) =
      false := by
    rw [show Token.isName ⟨.name, contextName⟩ = true from rfl, Bool.and_true, hprevious]
  have hsign : ∀ {depth : Nat} {previous : Token} {kind : TokenKind} {text : Text}, kind ≠ .name →
      (decide (depth = 1) && Token.isName ⟨kind, text⟩ && previous.introduces) = false := by
    intro depth previous kind text hkind
    simp [Token.isName, hkind]
  have hopen : ∀ {depth : Nat} {previous : Token} {us : List Token},
      parameters depth previous (⟨.sign, ['[']⟩ :: us) = parameters (depth + 1) ⟨.sign, ['[']⟩ us :=
    rfl
  have hclose : ∀ {depth : Nat} {previous : Token} {us : List Token}, 0 < depth →
      parameters (depth + 1) previous (⟨.sign, [']']⟩ :: us) = parameters depth ⟨.sign, [']']⟩ us := by
    intro depth previous us hdepth
    rw [parameters_cons, show Token.opens ⟨.sign, [']']⟩ = false from rfl,
      show Token.closes ⟨.sign, [']']⟩ = true from rfl, if_neg (by simp), if_pos rfl,
      if_neg (by omega), Nat.add_sub_cancel]
  unfold lookupTokens
  split
  · refine ⟨⟨.name, "dot"⟩, rfl, ?_⟩
    simp only [List.cons_append, List.nil_append]
    rw [quiet rfl rfl hfirst, quiet rfl rfl (hsign (by decide)), quiet rfl rfl (Bool.and_false _)]
  split
  · refine ⟨⟨.name, "root"⟩, rfl, ?_⟩
    simp only [List.cons_append, List.nil_append]
    rw [quiet rfl rfl hfirst, quiet rfl rfl (hsign (by decide)), quiet rfl rfl (Bool.and_false _)]
  · refine ⟨⟨.sign, [']']⟩, rfl, ?_⟩
    simp only [List.cons_append, List.nil_append]
    rw [quiet rfl rfl hfirst, quiet rfl rfl (hsign (by decide)), quiet rfl rfl (Bool.and_false _),
      hopen, quiet rfl rfl (hsign (by decide)), hclose hdepth]

/-- The parameters of a list in which none of them is replaced. -/
lemma parameters_expanded {depth : Nat} {previous previous' : Token} (h : VariablesMarked marked)
    (hdepth : 0 < depth)
    (hfree : ∀ t, (t, true) ∈ marked → t.text ∉ parameters depth previous (marked.map Prod.fst))
    (hprevious : previous'.introduces = previous.introduces) :
    parameters depth previous' (marked.flatMap expanded) =
      parameters depth previous (marked.map Prod.fst) := by
  induction marked generalizing depth previous previous' with
  | nil => rfl
  | cons m rest ih =>
    obtain ⟨t, free⟩ := m
    simp only [List.map_cons, parameters_cons] at hfree
    cases free with
    | false =>
      simp only [List.map_cons, List.flatMap_cons, expanded, List.cons_append, List.nil_append,
        parameters_cons, hprevious]
      split at hfree
      · rename_i hopens
        rw [if_pos hopens, if_pos hopens]
        exact ih h.tail (by omega) (fun u hu => hfree u (by simp [hu])) rfl
      rename_i hopens
      rw [if_neg hopens, if_neg hopens]
      split at hfree
      · rename_i hcloses
        rw [if_pos hcloses, if_pos hcloses]
        split at hfree
        · rename_i hone
          rw [if_pos hone, if_pos hone]
        · rename_i hone
          rw [if_neg hone, if_neg hone]
          exact ih h.tail (by omega) (fun u hu => hfree u (by simp [hu])) rfl
      rename_i hcloses
      rw [if_neg hcloses, if_neg hcloses]
      split at hfree
      · rename_i hparameter
        rw [if_pos hparameter, if_pos hparameter]
        rw [ih h.tail hdepth (fun u hu hmem => hfree u (by simp [hu]) (List.mem_cons_of_mem _ hmem))
          rfl]
      · rename_i hparameter
        rw [if_neg hparameter, if_neg hparameter]
        exact ih h.tail hdepth (fun u hu => hfree u (by simp [hu])) rfl
    | true =>
      have hname := h.head.1
      rw [if_neg (by simp [Token.opens_of_isName hname]),
        if_neg (by simp [Token.closes_of_isName hname])] at hfree
      -- a replaced variable does not stand where a parameter stands
      have hno : (decide (depth = 1) && previous.introduces) = false := by
        by_contra hparameter
        rw [Bool.not_eq_false, Bool.and_eq_true] at hparameter
        rw [if_pos (by rw [hparameter.1, hname, hparameter.2]; rfl)] at hfree
        exact hfree t (by simp) (List.mem_cons_self ..)
      have hno' : (decide (depth = 1) && t.isName && previous.introduces) = false := by
        rw [hname, Bool.and_true, hno]
      rw [if_neg (by rw [hno']; simp)] at hfree
      obtain ⟨last, hlast, hlookup⟩ := parameters_lookup t.text previous'
        (rest.flatMap expanded) hdepth (by rw [hprevious, hno])
      simp only [List.map_cons, List.flatMap_cons, expanded, hlookup, parameters_cons,
        Token.opens_of_isName hname, Token.closes_of_isName hname, hno', Bool.false_eq_true, if_false]
      exact ih h.tail hdepth (fun u hu => hfree u (by simp [hu]))
        (hlast.trans (Token.introduces_of_isName hname).symm)

/-- A list of parameters in which none of them is replaced. -/
lemma parameterList_expanded (h : VariablesMarked marked)
    (hfree : ∀ t, (t, true) ∈ marked → t.text ∉ parameterList (marked.map Prod.fst)) :
    parameterList (marked.flatMap expanded) = parameterList (marked.map Prod.fst) := by
  cases marked with
  | nil => rfl
  | cons m rest =>
    obtain ⟨t, free⟩ := m
    cases free with
    | false =>
      simp only [List.map_cons, List.flatMap_cons, expanded, List.cons_append, List.nil_append,
        parameterList] at hfree ⊢
      split
      · rename_i hopen
        rw [if_pos hopen] at hfree
        exact parameters_expanded h.tail Nat.one_pos (fun u hu => hfree u (by simp [hu])) rfl
      · rfl
    | true =>
      obtain ⟨us, hus⟩ := lookupTokens_cons t.text
      simp only [List.map_cons, List.flatMap_cons, expanded, hus, List.cons_append, parameterList,
        Token.isSign_of_isName h.head.1]
      rfl

/-! ### Imports -/

/-- The name in front, if none is replaced there. -/
lemma namesOf_take_expanded
    (hfree : ∀ t, (t, true) ∈ marked → t.isName = true ∧
      t.text ∉ namesOf ((marked.map Prod.fst).take 1)) :
    namesOf ((marked.flatMap expanded).take 1) = namesOf ((marked.map Prod.fst).take 1) := by
  cases marked with
  | nil => rfl
  | cons m rest =>
    obtain ⟨t, free⟩ := m
    cases free with
    | false => rfl
    | true =>
      obtain ⟨hname, hno⟩ := hfree t (by simp)
      simp [namesOf, hname] at hno

lemma aliases_cons (t : Token) (rest : List Token) :
    aliases (t :: rest) = (if t.isNamed "as" then namesOf (rest.take 1) else []) ++ aliases rest := by
  cases rest with
  | nil => simp [aliases, namesOf]
  | cons u rest =>
    rw [aliases]
    by_cases has : t.isNamed "as" = true
    · by_cases hu : u.isName = true
      · rw [if_pos (by rw [has, hu]; rfl), if_pos has]
        simp [namesOf, hu]
      · rw [if_neg (by rw [has]; exact hu), if_pos has]
        simp [namesOf, hu]
    · rw [if_neg fun h => has (Bool.and_eq_true_iff.mp h).1, if_neg has, List.nil_append]

lemma aliases_lookup (name : Text) (rest : List Token) :
    aliases (lookupTokens name ++ rest) = aliases rest := by
  have quiet : ∀ {u : Token} {us : List Token}, u.isNamed "as" = false →
      aliases (u :: us) = aliases us := by
    intro u us has
    rw [aliases_cons, has]
    rfl
  unfold lookupTokens
  split
  · simp only [List.cons_append, List.nil_append]
    rw [quiet rfl, quiet rfl, quiet rfl]
  split
  · simp only [List.cons_append, List.nil_append]
    rw [quiet rfl, quiet rfl, quiet rfl]
  · simp only [List.cons_append, List.nil_append]
    rw [quiet rfl, quiet rfl, quiet rfl, quiet rfl, quiet rfl, quiet rfl]

/-- The names behind the word `as` if none of them is replaced. -/
lemma aliases_expanded (h : VariablesMarked marked)
    (hfree : ∀ t, (t, true) ∈ marked → t.text ∉ aliases (marked.map Prod.fst)) :
    aliases (marked.flatMap expanded) = aliases (marked.map Prod.fst) := by
  induction marked with
  | nil => rfl
  | cons m rest ih =>
    obtain ⟨t, free⟩ := m
    simp only [List.map_cons, aliases_cons, List.mem_append, not_or] at hfree
    have hrest := ih h.tail fun u hu => (hfree u (by simp [hu])).2
    cases free with
    | true =>
      have has : t.isNamed "as" = false := Token.isNamed_of_not_keyword h.head.2 (by decide)
      simp only [List.map_cons, List.flatMap_cons, expanded, aliases_lookup, aliases_cons, has, hrest]
      rfl
    | false =>
      simp only [List.map_cons, List.flatMap_cons, expanded, List.cons_append, List.nil_append,
        aliases_cons, hrest]
      split
      · rename_i has
        rw [namesOf_take_expanded]
        intro u hu
        have hno := (hfree u (by simp [hu])).1
        rw [if_pos has] at hno
        exact ⟨(h.tail u hu).1, hno⟩
      · rfl

lemma importedNames_lookup (name : Text) (rest : List Token) :
    importedNames false (lookupTokens name ++ rest) = importedNames false rest := by
  have quiet : ∀ {u : Token} {us : List Token}, u.isNamed "import" = false →
      importedNames false (u :: us) = importedNames false us := by
    intro u us himport
    rw [importedNames, himport]
    rfl
  unfold lookupTokens
  split
  · simp only [List.cons_append, List.nil_append]
    rw [quiet rfl, quiet rfl, quiet rfl]
  split
  · simp only [List.cons_append, List.nil_append]
    rw [quiet rfl, quiet rfl, quiet rfl]
  · simp only [List.cons_append, List.nil_append]
    rw [quiet rfl, quiet rfl, quiet rfl, quiet rfl, quiet rfl, quiet rfl]

/-- The imported names if none of them is replaced. -/
lemma importedNames_expanded {importing : Bool} (h : VariablesMarked marked)
    (hfree : ∀ t, (t, true) ∈ marked → t.text ∉ importedNames importing (marked.map Prod.fst)) :
    importedNames importing (marked.flatMap expanded) =
      importedNames importing (marked.map Prod.fst) := by
  induction marked generalizing importing with
  | nil => rfl
  | cons m rest ih =>
    obtain ⟨t, free⟩ := m
    simp only [List.map_cons, importedNames] at hfree
    cases free with
    | false =>
      simp only [List.map_cons, List.flatMap_cons, expanded, List.cons_append, List.nil_append,
        importedNames]
      split at hfree
      · rename_i himport
        rw [if_pos himport, if_pos himport]
        exact ih h.tail fun u hu => hfree u (by simp [hu])
      rename_i himport
      rw [if_neg himport, if_neg himport]
      split at hfree
      · rename_i hname
        rw [if_pos hname, if_pos hname]
        rw [ih h.tail fun u hu hmem => hfree u (by simp [hu]) (List.mem_cons_of_mem _ hmem)]
      · rename_i hname
        rw [if_neg hname, if_neg hname]
        exact ih h.tail fun u hu => hfree u (by simp [hu])
    | true =>
      obtain ⟨hname, hkeyword⟩ := h.head
      have himport : t.isNamed "import" = false := Token.isNamed_of_not_keyword hkeyword (by decide)
      rw [himport, hname, hkeyword] at hfree
      -- behind the word `import` every variable is imported
      cases importing with
      | true => exact absurd (List.mem_cons_self ..) (hfree t (by simp))
      | false =>
        simp only [List.map_cons, List.flatMap_cons, expanded, importedNames_lookup, importedNames,
          himport, Bool.false_and, Bool.false_eq_true, if_false]
        exact ih h.tail fun u hu => hfree u (by simp [hu])

/-! ### Statements -/

/-- The names that a statement binds and the regions of its tokens are kept when marked variables are
replaced. -/
structure KeepsRegions (tag : Text) (marked : List (Token × Bool)) : Prop where
  bindings : bindingsOf tag (marked.flatMap expanded) = bindingsOf tag (marked.map Prod.fst)
  inner : innerNames tag (marked.flatMap expanded) = innerNames tag (marked.map Prod.fst)
  regions : Aligned marked (regionsOf tag (marked.map Prod.fst))
    (regionsOf tag (marked.flatMap expanded))
  /-- The name of a macro, which is bound outside of it. -/
  macroName : tag = "macro" →
    namesOf ((marked.flatMap expanded).take 1) = namesOf ((marked.map Prod.fst).take 1)

/-- A label in front of tokens of the outer region. -/
lemma aligned_first_label
    (hlabels : Unlabelled marked ((((marked.map Prod.fst).take 1).map fun _ => .label) ++
      ((marked.map Prod.fst).drop 1).map fun _ => .outer)) :
    (marked.flatMap expanded).take 1 = (marked.map Prod.fst).take 1 ∧
      Aligned marked
        ((((marked.map Prod.fst).take 1).map fun _ => .label) ++
          ((marked.map Prod.fst).drop 1).map fun _ => .outer)
        ((((marked.flatMap expanded).take 1).map fun _ => .label) ++
          ((marked.flatMap expanded).drop 1).map fun _ => .outer) := by
  cases marked with
  | nil => exact ⟨rfl, .nil⟩
  | cons m rest =>
    obtain ⟨t, free⟩ := m
    cases hlabels with
    | cons hfree _ =>
      cases free with
      | true => exact absurd rfl (hfree rfl)
      | false => exact ⟨rfl, .kept rfl (aligned_map_const .outer rest)⟩

lemma regionsOf_set (rest : List Token) : regionsOf "set" rest =
    match beforeSign? "=" rest with
    | some targets => (targets.map fun _ => .label) ++ (rest.drop targets.length).map fun _ => .outer
    | none => ((rest.take 1).map fun _ => .label) ++ (rest.drop 1).map fun _ => .outer := rfl

lemma bindingsOf_set (rest : List Token) : bindingsOf "set" rest =
    match beforeSign? "=" rest with
    | some targets => assignedNames none targets
    | none => namesOf (rest.take 1) := rfl

lemma keeps_set (h : VariablesMarked marked)
    (hlabels : Unlabelled marked (regionsOf "set" (marked.map Prod.fst))) : KeepsRegions "set" marked := by
  rw [regionsOf_set] at hlabels
  cases hsign : beforeSign? "=" (marked.map Prod.fst) with
  | none =>
    have hsign' := beforeSign?_expanded_eq_none hsign
    simp only [hsign] at hlabels
    obtain ⟨htake, haligned⟩ := aligned_first_label hlabels
    refine ⟨?_, rfl, ?_, fun h => absurd h (by decide)⟩
    · rw [bindingsOf_set, bindingsOf_set, hsign, hsign', htake]
    · rw [regionsOf_set, regionsOf_set, hsign, hsign']
      exact haligned
  | some targets =>
    obtain ⟨t, more, hmarked, ht, htargets⟩ := exists_of_beforeSign?_eq_some hsign
    simp only [hsign] at hlabels
    rw [hmarked, List.drop_left] at hlabels
    obtain ⟨rest, rfl, hrest, -⟩ := exists_of_unlabelled hlabels hmarked
    -- the equals sign is no variable
    obtain ⟨behind, rfl⟩ : ∃ behind, rest = (t, false) :: behind := by
      cases rest with
      | nil => cases hrest
      | cons m behind =>
        obtain ⟨u, free⟩ := m
        obtain rfl : u = t := (List.cons.inj hrest).1
        cases free with
        | false => exact ⟨behind, rfl⟩
        | true =>
          have hname := (h u (by simp)).1
          rw [Token.isSign_of_isName hname] at ht
          cases ht
    have hsign' : beforeSign? "=" ((targets.map (·, false) ++ (t, false) :: behind).flatMap expanded)
        = some targets := by
      rw [List.flatMap_append, flatMap_expanded_kept, List.flatMap_cons]
      exact beforeSign?_append htargets ht
    refine ⟨?_, rfl, ?_, fun h => absurd h (by decide)⟩
    · rw [bindingsOf_set, bindingsOf_set, hsign, hsign']
    · rw [regionsOf_set, regionsOf_set, hsign, hsign', hmarked]
      simp only [List.flatMap_append, flatMap_expanded_kept, List.drop_left]
      exact (hrest ▸ aligned_map_const .outer ((t, false) :: behind)).labels

lemma regionsOf_for (rest : List Token) : regionsOf "for" rest =
    ((loopTargets rest).map fun _ => .label) ++
      match rest.drop (loopTargets rest).length with
      | [] => []
      | _ :: more => .outer :: iterationRegions 0 more := rfl

lemma keeps_for (h : VariablesMarked marked)
    (hlabels : Unlabelled marked (regionsOf "for" (marked.map Prod.fst))) : KeepsRegions "for" marked := by
  have hbindings : ∀ rest, bindingsOf "for" rest = namesOf (loopTargets rest) ++ [("loop" : Text)] :=
    fun _ => rfl
  have hinner : ∀ rest, innerNames "for" rest = namesOf (loopTargets rest) := fun _ => rfl
  -- the targets are kept, and so is the word behind them
  have htargets : loopTargets (marked.flatMap expanded) = loopTargets (marked.map Prod.fst) ∧
      Aligned marked (regionsOf "for" (marked.map Prod.fst))
        (regionsOf "for" (marked.flatMap expanded)) := by
    generalize htargets : loopTargets (marked.map Prod.fst) = targets
    have hno : ∀ u ∈ targets, (!u.isNamed "in") = true := by
      rw [← htargets, loopTargets]
      exact fun u hu => List.mem_takeWhile_imp (p := fun t : Token => !t.isNamed "in") hu
    have hbehind : targets ++ (marked.map Prod.fst).dropWhile (fun t => !t.isNamed "in") =
        marked.map Prod.fst := htargets ▸ List.takeWhile_append_dropWhile
    have hnext := List.head?_dropWhile_not (fun t : Token => !t.isNamed "in") (marked.map Prod.fst)
    generalize (marked.map Prod.fst).dropWhile (fun t => !t.isNamed "in") = behind at hbehind hnext
    rw [regionsOf_for, htargets, ← hbehind, List.drop_left] at hlabels
    obtain ⟨rest, rfl, hrest, -⟩ := exists_of_unlabelled hlabels hbehind.symm
    rw [regionsOf_for, htargets, ← hbehind, List.drop_left, regionsOf_for]
    simp only [List.flatMap_append, flatMap_expanded_kept]
    cases behind with
    | nil =>
      obtain rfl : rest = [] := List.map_eq_nil_iff.mp hrest
      have hall : loopTargets targets = targets := List.takeWhile_eq_self_iff.mpr hno
      rw [List.flatMap_nil, List.append_nil, hall, List.drop_length]
      exact ⟨rfl, Aligned.nil.labels⟩
    | cons t more =>
      have hin : (!t.isNamed "in") = false := hnext
      obtain ⟨rest, rfl⟩ : ∃ rest', rest = (t, false) :: rest' := by
        cases rest with
        | nil => cases hrest
        | cons m rest =>
          obtain ⟨u, free⟩ := m
          obtain rfl : u = t := (List.cons.inj hrest).1
          cases free with
          | false => exact ⟨rest, rfl⟩
          | true =>
            rw [Token.isNamed_of_not_keyword (h u (by simp)).2 (by decide)] at hin
            cases hin
      have hall : ∀ us, loopTargets (targets ++ t :: us) = targets := by
        intro us
        rw [loopTargets, List.takeWhile_append_of_pos hno, List.takeWhile_cons, hin]
        simp
      obtain rfl : rest.map Prod.fst = more := (List.cons.inj hrest).2
      simp only [List.flatMap_cons, expanded, List.cons_append, List.nil_append, hall,
        List.drop_left, true_and]
      refine Aligned.labels (.kept rfl (aligned_iterationRegions ?_ 0))
      exact fun u hu => h u (by simp [hu])
  refine ⟨?_, ?_, htargets.2, fun h => absurd h (by decide)⟩
  · rw [hbindings, hbindings, htargets.1]
  · rw [hinner, hinner, htargets.1]

lemma keeps_with (h : VariablesMarked marked)
    (hlabels : Unlabelled marked (regionsOf "with" (marked.map Prod.fst))) :
    KeepsRegions "with" marked := by
  have hregions : ∀ rest, regionsOf "with" rest =
      assignmentRegions (assignmentTargets none rest) rest := fun _ => rfl
  have hbindings : ∀ rest, bindingsOf "with" rest = assignmentTargets none rest := fun _ => rfl
  rw [hregions] at hlabels
  obtain ⟨htargets, haligned⟩ := assignments_expanded h hlabels (fun _ hn => hn) rfl
  refine ⟨?_, rfl, ?_, fun h => absurd h (by decide)⟩
  · rw [hbindings, hbindings, htargets]
  · rw [hregions, hregions, htargets]
    exact haligned

lemma keeps_macro (h : VariablesMarked marked)
    (hfree : ∀ t, (t, true) ∈ marked → t.text ∉ bindingsOf "macro" (marked.map Prod.fst)) :
    KeepsRegions "macro" marked := by
  have hbindings : ∀ t more, bindingsOf "macro" (t :: more) =
      if t.isName then macroNames ++ t.text :: parameterList more else macroNames := fun _ _ => rfl
  cases marked with
  | nil => exact ⟨rfl, rfl, .nil, fun _ => rfl⟩
  | cons m rest =>
    obtain ⟨t, free⟩ := m
    simp only [List.map_cons, hbindings] at hfree
    cases free with
    | true =>
      rw [if_pos h.head.1] at hfree
      exact absurd (List.mem_append_right _ (List.mem_cons_self ..)) (hfree t (by simp))
    | false =>
      refine ⟨?_, rfl, aligned_map_const .outer ((t, false) :: rest), fun _ => rfl⟩
      simp only [List.map_cons, List.flatMap_cons, expanded, List.cons_append, List.nil_append,
        hbindings]
      split at hfree
      · rename_i hname
        rw [if_pos hname, if_pos hname, parameterList_expanded h.tail]
        intro u hu hmem
        exact hfree u (by simp [hu]) (List.mem_append_right _ (List.mem_cons_of_mem _ hmem))
      · rename_i hname
        rw [if_neg hname, if_neg hname]

/-- Replacing variables keeps what a statement binds. -/
theorem keeps_of_unlabelled {tag : Text} (h : VariablesMarked marked)
    (hlabels : Unlabelled marked (regionsOf tag (marked.map Prod.fst)))
    (hfree : binders.contains tag = true →
      ∀ t, (t, true) ∈ marked → t.text ∉ bindingsOf tag (marked.map Prod.fst)) : KeepsRegions tag marked := by
  by_cases hlabelled : labelled.contains tag = true
  · have hfirst := fun hlabels => (@aligned_first_label marked hlabels).2
    simp only [labelled, List.contains_eq_mem, decide_eq_true_eq, List.mem_cons,
      List.not_mem_nil, or_false] at hlabelled
    rcases hlabelled with rfl | rfl | rfl <;>
      exact ⟨rfl, rfl, hfirst hlabels, fun h => absurd h (by decide)⟩
  by_cases hset : tag = "set"
  · subst hset
    exact keeps_set h hlabels
  by_cases hfor : tag = "for"
  · subst hfor
    exact keeps_for h hlabels
  by_cases hwith : tag = "with"
  · subst hwith
    exact keeps_with h hlabels
  by_cases hmacro : tag = "macro"
  · subst hmacro
    exact keeps_macro h (hfree (by decide))
  -- all tokens of the other statements are in the outer region
  have hregions : ∀ rest, regionsOf tag rest = rest.map fun _ => .outer := by
    intro rest
    rw [regionsOf, if_neg hlabelled, if_neg hset, if_neg hfor, if_neg hwith]
  have hinner : ∀ rest, innerNames tag rest = [] := fun rest => if_neg hfor
  refine ⟨?_, by rw [hinner, hinner], ?_, fun h => absurd h hmacro⟩
  · by_cases hcall : tag = "call"
    · subst hcall
      exact parameterList_expanded h (hfree (by decide))
    by_cases himport : tag = "import"
    · subst himport
      exact aliases_expanded h (hfree (by decide))
    by_cases hfrom : tag = "from"
    · subst hfrom
      exact importedNames_expanded h (hfree (by decide))
    have hnone : ∀ rest, bindingsOf tag rest = [] := by
      intro rest
      simp only [bindingsOf, hfor, hset, hwith, hmacro, hcall, himport, hfrom, if_false]
    rw [hnone, hnone]
  · rw [hregions, hregions]
    exact aligned_map_const .outer marked

end ComponentTags
