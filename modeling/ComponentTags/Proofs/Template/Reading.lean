/-
# Reading what was written

A reader takes lexemes from the front of a sequence.  What it gives is said with `Reads`, apart from the lines
of the lexemes and whatever the limits are, and readers are put together by the rules of `Reads` alone.  A
loop is followed step by step (`Iterates`): as every step that leads on takes a lexeme, there are enough of
them (`reads_iterate`).

An operand is a value with what stands behind it (`Operand`): attributes, items and calls can be added at its
end.  In front of a lexeme that no operator begins with, an operand is a whole expression
(`Written.of_operand`).
-/
import ComponentTags.Template.Statement
import Mathlib.Data.List.Basic

namespace ComponentTags.Template

/-- Whether a lexeme is a fault. -/
def Lexeme.isFault : Lexeme → Bool
  | fault _ => true
  | _ => false

namespace Reader

variable {α β : Type} {a : α} {b : β} {l stop : Lexeme} {ls mid rest more front : List Lexeme} {r : Reader α}
  {P : α → Prop} {Q : β → Prop} {e : Expr} {fuel : Nat} {withChoices : Bool}

/-! ### What a reader does -/

/-- From some lexemes on, a reader gives something that meets a condition and leaves other lexemes. -/
def Reads (r : Reader α) (ls : List Lexeme) (P : α → Prop) (rest : List Lexeme) : Prop :=
  ∀ ⦃u : Unread⦄, u.lexemes.map Placed.lexeme = ls → ls.length < u.limit →
    ∃ a u', r u = .ok (a, u') ∧ P a ∧ u'.lexemes.map Placed.lexeme = rest ∧ u'.limit = u.limit ∧
      rest.length ≤ ls.length

namespace Reads

lemma pure (a : α) : Reads (pure a) ls (· = a) ls :=
  fun u hu _ => ⟨a, u, rfl, rfl, hu, rfl, Nat.le_refl _⟩

lemma bind {f : α → Reader β} (h : Reads r ls P mid) (hf : ∀ a, P a → Reads (f a) mid Q rest) :
    Reads (r >>= f) ls Q rest := by
  intro u hu hlimit
  obtain ⟨a, u', hr, ha, hu', hlimit', hmid⟩ := h hu hlimit
  obtain ⟨b, u'', hfa, hb, hu'', hlimit'', hrest⟩ := hf a ha hu' (by omega)
  refine ⟨b, u'', ?_, hb, hu'', hlimit''.trans hlimit', Nat.le_trans hrest hmid⟩
  show (r u >>= fun p => f p.1 p.2) = _
  rw [hr]
  exact hfa

/-- A reader that is known to give one thing is followed by what is done with this thing. -/
lemma bind_eq {f : α → Reader β} (h : Reads r ls (· = a) mid) (hf : Reads (f a) mid Q rest) :
    Reads (r >>= f) ls Q rest :=
  h.bind fun _ ha => ha ▸ hf

lemma mono {P' : α → Prop} (h : Reads r ls P rest) (hP : ∀ a, P a → P' a) : Reads r ls P' rest :=
  fun _ hu hlimit =>
    have ⟨a, u', hr, ha, hrest⟩ := h hu hlimit
    ⟨a, u', hr, hP a ha, hrest⟩

lemma ensure {b : Bool} {other : Reader Unit} (hb : b = true) :
    Reads (if b then Pure.pure () else other) ls (· = ()) ls := by
  rw [if_pos hb]
  exact pure ()

/-- The first lexeme is looked at. -/
lemma current : Reads current (l :: ls) (·.lexeme = l) (l :: ls) := by
  intro u hu _
  obtain ⟨lexemes, limit⟩ := u
  cases lexemes with
  | nil => cases hu
  | cons first others =>
    exact ⟨first, _, rfl, (List.cons.inj hu).1, hu, rfl, Nat.le_refl _⟩

/-- The second lexeme is looked at. -/
lemma next : Reads next (l :: stop :: ls) (· = stop) (l :: stop :: ls) := by
  intro u hu _
  obtain ⟨lexemes, limit⟩ := u
  match lexemes, hu with
  | first :: second :: others, hu =>
    simp only [List.map_cons, List.cons.injEq] at hu
    exact ⟨_, _, rfl, hu.2.1, by simp [hu], rfl, Nat.le_refl _⟩

lemma next_any : Reads Reader.next ls (fun _ => True) ls := by
  intro u hu _
  obtain ⟨lexemes, limit⟩ := u
  match lexemes, hu with
  | [], hu => exact ⟨_, _, rfl, trivial, hu, rfl, Nat.le_refl _⟩
  | [_], hu => exact ⟨_, _, rfl, trivial, hu, rfl, Nat.le_refl _⟩
  | _ :: _ :: _, hu => exact ⟨_, _, rfl, trivial, hu, rfl, Nat.le_refl _⟩

lemma settle (hl : l.isFault = false) : Reads settle (l :: ls) (· = ()) (l :: ls) := by
  refine current.bind fun first hfirst => ?_
  subst hfirst
  split
  · next hfault => rw [hfault] at hl; cases hl
  · exact pure ()

/-- The first lexeme is taken if the one behind it is no fault. -/
lemma take (hstop : stop.isFault = false) :
    Reads take (l :: stop :: ls) (·.lexeme = l) (stop :: ls) := by
  refine current.bind fun first hfirst => ?_
  have hfirst : Reads (Pure.pure first) (stop :: ls) (·.lexeme = l) (stop :: ls) :=
    (pure first).mono fun _ ha => ha ▸ hfirst
  refine bind_eq (a := ()) ?_ ((settle hstop).bind_eq hfirst)
  intro u hu _
  obtain ⟨lexemes, limit⟩ := u
  match lexemes, hu with
  | first :: second :: others, hu =>
    simp only [List.map_cons, List.cons.injEq] at hu
    exact ⟨(), _, rfl, rfl, by simp [hu], rfl, by simp⟩

lemma takeIf_of_not {test : Lexeme → Bool} (hl : test l = false) :
    Reads (Reader.takeIf test) (l :: ls) (· = false) (l :: ls) := by
  refine current.bind fun first hfirst => ?_
  rw [hfirst, hl]
  exact pure false

lemma expect {test : Lexeme → Bool} {expected : Text} (hl : test l = true) (hstop : stop.isFault = false) :
    Reads (expect test expected) (l :: stop :: ls) (·.lexeme = l) (stop :: ls) := by
  refine current.bind fun first hfirst => ?_
  rw [hfirst, if_pos hl]
  exact take hstop

lemma expectSign (s : Text) (hstop : stop.isFault = false) :
    Reads (expectSign s) (.sign s :: stop :: ls) (· = ()) (stop :: ls) :=
  (expect (by simp [Lexeme.isSign]) hstop).bind fun _ _ => pure ()

end Reads

/-! ### Loops -/

/-- The steps of a loop: some lead on, each from fewer lexemes, and the last one does not. -/
inductive Iterates (step : α → Reader (Option α)) : α → List Lexeme → (α → Prop) → List Lexeme → Prop
  | stop {a : α} {ls rest : List Lexeme} {P : α → Prop} (h : Reads (step a) ls (· = none) rest) (ha : P a) :
      Iterates step a ls P rest
  | more {a : α} {ls mid rest : List Lexeme} {P Q : α → Prop}
      (h : Reads (step a) ls (fun found => ∃ b, found = some b ∧ Q b) mid) (hless : mid.length < ls.length)
      (hrest : ∀ b, Q b → Iterates step b mid P rest) : Iterates step a ls P rest

lemma Iterates.more_eq {step : α → Reader (Option α)} {b : α} (h : Reads (step a) ls (· = some b) mid)
    (hless : mid.length < ls.length) (hrest : Iterates step b mid P rest) : Iterates step a ls P rest :=
  .more (Q := (· = b)) (h.mono fun _ hfound => ⟨b, hfound, rfl⟩) hless fun _ hb => hb ▸ hrest

lemma Iterates.mono {step : α → Reader (Option α)} {P' : α → Prop} (h : Iterates step a ls P rest)
    (hP : ∀ a, P a → P' a) : Iterates step a ls P' rest := by
  induction h with
  | stop h ha => exact .stop h (hP _ ha)
  | more h hless _ ih => exact .more h hless fun b hb => ih b hb hP

lemma reads_iterateWithin {step : α → Reader (Option α)} (h : Iterates step a ls P rest)
    (hfuel : ls.length < fuel) : Reads (iterateWithin step fuel a) ls P rest := by
  induction h generalizing fuel with
  | @stop a ls rest P h ha =>
    cases fuel with
    | zero => cases hfuel
    | succ fuel => exact h.bind_eq ((Reads.pure a).mono fun _ hb => hb ▸ ha)
  | @more a ls mid rest P Q h hless _ ih =>
    cases fuel with
    | zero => cases hfuel
    | succ fuel =>
      refine h.bind fun found hfound => ?_
      obtain ⟨b, rfl, hb⟩ := hfound
      exact ih b hb (by omega)

/-- A loop has steps enough. -/
lemma reads_iterate {step : α → Reader (Option α)} (h : Iterates step a ls P rest) :
    Reads (iterate step a) ls P rest := by
  intro u hu hlimit
  exact reads_iterateWithin h hlimit hu hlimit

/-- A loop whose first step does not lead on. -/
lemma reads_iterate_of_none {step : α → Reader (Option α)} (h : Reads (step a) ls (· = none) rest) :
    Reads (iterate step a) ls (· = a) rest :=
  reads_iterate (.stop h rfl)

/-! ### Lists -/

/-- Some lists of lexemes with commas between them. -/
def listed : List (List Lexeme) → List Lexeme
  | [] => []
  | first :: others => first ++ others.flatMap (.sign "," :: ·)

lemma listed_cons_cons (first second : List Lexeme) (others : List (List Lexeme)) :
    listed (first :: second :: others) = first ++ .sign "," :: listed (second :: others) := by
  simp [listed]

lemma length_le_listed {lists : List (List Lexeme)} (h : front ∈ lists) :
    front.length ≤ (listed lists).length := by
  cases lists with
  | nil => cases h
  | cons first others =>
    rw [listed, List.length_append]
    rcases List.mem_cons.mp h with rfl | h
    · omega
    · have hless := (List.sublist_flatten_of_mem (List.mem_map_of_mem (f := (Lexeme.sign "," :: ·)) h)).length_le
      rw [← List.flatMap_def, List.length_cons] at hless
      omega

/-- The step of the loop that reads a list. -/
def listStep (close : Text) (trailing : Bool) (item : List α → Reader α) (items : List α) :
    Reader (Option (List α)) := do
  if (← current).lexeme.isSign close then return none
  if !items.isEmpty then
    expectSign ","
    if trailing && (← current).lexeme.isSign close then return none
  return some (items ++ [← item items])

lemma listUntil_eq (close : Text) (trailing : Bool) (item : List α → Reader α) :
    listUntil close trailing item = (do
      let items ← iterate (listStep close trailing item) []
      expectSign close
      return items) := rfl

section Lists

variable {close : Text} {trailing : Bool} {item : List α → Reader α} {before : List α}

lemma listStep_close : Reads (listStep close trailing item before) (.sign close :: ls) (· = none)
    (.sign close :: ls) := by
  refine Reads.current.bind fun first hfirst => ?_
  rw [hfirst, if_pos (by simp [Lexeme.isSign])]
  exact .pure none

lemma listStep_first (hl : l.isSign close = false) (hitem : Reads (item []) (l :: ls) (· = a) rest) :
    Reads (listStep close trailing item []) (l :: ls) (· = some [a]) rest := by
  refine Reads.current.bind fun first hfirst => ?_
  rw [hfirst, hl]
  exact hitem.bind_eq (.pure _)

lemma listStep_more (hbefore : before ≠ []) (hclose : close ≠ ",") (hl : l.isSign close = false)
    (hfault : l.isFault = false) (hitem : Reads (item before) (l :: ls) (· = a) rest) :
    Reads (listStep close trailing item before) (.sign "," :: l :: ls) (· = some (before ++ [a])) rest := by
  have hcomma : (Lexeme.sign ",").isSign close = false := by simpa [Lexeme.isSign] using hclose.symm
  refine Reads.current.bind fun first hfirst => ?_
  rw [hfirst, hcomma, if_neg Bool.false_ne_true, List.isEmpty_eq_false_iff.mpr hbefore]
  refine (Reads.expectSign "," hfault).bind_eq (Reads.current.bind fun first hfirst => ?_)
  rw [hfirst, hl, Bool.and_false]
  exact hitem.bind_eq (.pure _)

/-- Items with commas between them are read up to a closing sign, if each of them is read given good ones
before it and does not begin with that sign. -/
lemma reads_listUntil (close : Text) (trailing : Bool) (item : List α → Reader α) (good : α → Prop)
    (items : List (List Lexeme × α)) (rest : List Lexeme) (hclose : close ≠ ",")
    (hgood : ∀ x ∈ items, good x.2)
    (hitem : ∀ x ∈ items, ∀ before, (∀ y ∈ before, good y) → ∀ stop more,
      (stop = .sign "," ∨ stop = .sign close) →
        Reads (item before) (x.1 ++ stop :: more) (· = x.2) (stop :: more))
    (hleads : ∀ x ∈ items, ∃ l more, x.1 = l :: more ∧ l.isSign close = false ∧ l.isFault = false)
    (hstop : stop.isFault = false) :
    Reads (listUntil close trailing item) (listed (items.map Prod.fst) ++ .sign close :: stop :: rest)
      (· = items.map Prod.snd) (stop :: rest) := by
  let behind (others : List (List Lexeme × α)) : List Lexeme :=
    (others.map Prod.fst).flatMap (.sign "," :: ·) ++ .sign close :: stop :: rest
  have hbehind : ∀ others, ∃ s more, behind others = s :: more ∧ (s = .sign "," ∨ s = .sign close) := by
    rintro (_ | ⟨x, others⟩)
    · exact ⟨_, _, rfl, .inr rfl⟩
    · exact ⟨_, _, rfl, .inl rfl⟩
  -- behind the first item every item stands behind a comma
  have hmore : ∀ (others : List (List Lexeme × α)) (before : List α), others ⊆ items → before ≠ [] →
      (∀ y ∈ before, good y) → Iterates (listStep close trailing item) before (behind others)
        (· = before ++ others.map Prod.snd) (.sign close :: stop :: rest) := by
    intro others
    induction others with
    | nil =>
      intro before _ _ _
      exact .stop listStep_close (by simp)
    | cons x others ih =>
      intro before hmem hne hbefore
      have hx := hmem (.head _)
      obtain ⟨l, tail, hfront, hl, hfault⟩ := hleads x hx
      obtain ⟨s, more, hs, hseparates⟩ := hbehind others
      have hread := hitem x hx before hbefore s more hseparates
      have htext : behind (x :: others) = .sign "," :: l :: (tail ++ behind others) := by
        simp [behind, hfront]
      rw [hfront, List.cons_append, ← hs] at hread
      rw [htext]
      refine .more_eq (listStep_more hne hclose hl hfault hread) (by simp; omega) ?_
      have hgoods : ∀ y ∈ before ++ [x.2], good y := by
        intro y hy
        rcases List.mem_append.mp hy with hy | hy
        · exact hbefore y hy
        · exact List.mem_singleton.mp hy ▸ hgood x hx
      have hrest := ih (before ++ [x.2]) (fun y hy => hmem (.tail _ hy)) (by simp) hgoods
      rwa [List.append_assoc, List.singleton_append] at hrest
  rw [listUntil_eq]
  refine Reads.bind_eq (reads_iterate ?_)
    ((Reads.expectSign close hstop).bind_eq (.pure _))
  cases items with
  | nil => exact .stop listStep_close rfl
  | cons x others =>
    obtain ⟨l, tail, hfront, hl, hfault⟩ := hleads x (.head _)
    obtain ⟨s, more, hs, hseparates⟩ := hbehind others
    have hread := hitem x (.head _) [] (by simp) s more hseparates
    have htext : listed ((x :: others).map Prod.fst) ++ .sign close :: stop :: rest =
        l :: (tail ++ behind others) := by
      simp [listed, behind, hfront]
    rw [hfront, List.cons_append, ← hs] at hread
    rw [htext]
    refine .more_eq (listStep_first hl hread) (Nat.lt_succ_of_le (List.suffix_append tail _).length_le) ?_
    exact hmore others [x.2] (fun y hy => .tail _ hy) (by simp) (by simpa using hgood x (.head _))

end Lists

end Reader

end ComponentTags.Template
