/-
# Running flat blocks

What a flat block puts out is what its chunks come to, one after the other (`putsOut_chunks`).  A loop over such a
block puts out what its rounds put out (`putsOut_loop`), a macro with such a block as its body gives what the block
puts out (`gives_callMacro`), and a template runs in a block of its own (`putsOut_execTemplate`).
-/
import Mathlib.Data.List.Forall2
import ComponentTags.Proofs.Template.Constructs
import ComponentTags.Proofs.Template.Places

namespace ComponentTags.Template

variable {α : Type} {st st' : Store} {s : Setting} {call : Caller} {p : Place} {sc : Scene} {held : Text}

/-! ### One after the other -/

/-- What several parts put out, one after the other, if none of them fails. -/
def joined : List (Except Failure Text) → Except Failure Text
  | [] => .ok []
  | r :: rest => together r (joined rest)

lemma joined_append (front back : List (Except Failure Text)) :
    joined (front ++ back) = together (joined front) (joined back) := by
  induction front with
  | nil => exact (together_nil_left _).symm
  | cons r front ih => rw [List.cons_append, joined, joined, ih, together_assoc]

namespace Store

/-- What an action puts out for every element of a list. -/
lemma PutsOut.forM {f : α → Action Unit} {out : α → Except Failure Text} {xs : List α}
    (h : ∀ x ∈ xs, ∀ st', st.GoesOn st' → st'.PutsOut (f x) (out x)) : st.PutsOut (xs.forM f) (joined (xs.map out)) := by
  induction xs generalizing st with
  | nil => exact .pure
  | cons x xs ih =>
    refine (h x (.head _) st (.refl st)).bind fun st₁ hst₁ => ih fun y hy st₂ hst₂ => ?_
    exact h y (.tail _ hy) st₂ (hst₁.trans hst₂)

end Store

/-! ### Chunks -/

/-- How a value is put out. -/
def Setting.shown (s : Setting) (v : Value) : Except Failure Text := if s.escapes then v.escaped else v.display

lemma putsOut_emit (v : Value) : st.PutsOut (emit s v) (s.shown v) := by
  have hshown : st.Gives (Action.of (s.shown v)) (s.shown v) := .of_eq rfl
  have hput := hshown.putsOut_bind (q := .ok) fun t _ _ _ => Store.PutsOut.put t
  have hsame : s.shown v >>= Except.ok = s.shown v := bind_pure (s.shown v)
  rw [hsame] at hput
  exact hput

/-- What a chunk comes to at a place, from a store on. -/
def Chunk.ComesTo (s : Setting) (call : Caller) (p : Place) (st : Store) : Chunk → Except Failure Text → Prop
  | .text t _, r => r = .ok t
  | .value e, r => ∃ v, (∀ st', st.GoesOn st' → st'.Gives (e.expr.eval s call p) v) ∧ r = v >>= s.shown

lemma Chunk.ComesTo.goesOn {chunk : Chunk} {r : Except Failure Text} (h : chunk.ComesTo s call p st r)
    (hst : st.GoesOn st') : chunk.ComesTo s call p st' r := by
  cases chunk with
  | text t ht => exact h
  | value e =>
    obtain ⟨v, hv, hr⟩ := h
    exact ⟨v, fun st₁ hst₁ => hv st₁ (hst.trans hst₁), hr⟩

lemma putsOut_held {statements : List Statement} {r : Except Failure Text}
    (h : ∀ st', st.GoesOn st' → st'.PutsOut (execAll s call p statements) r) :
    st.PutsOut (execAll s call p (textStatements held ++ statements)) (together (.ok held) r) := by
  unfold textStatements
  split
  · next hheld =>
    rw [hheld, together_nil_left]
    exact h st (.refl st)
  · rw [List.singleton_append, execAll, Statement.exec]
    exact (Store.PutsOut.put held).bind h

/-- A flat block puts out what is held back in front of it and what its chunks come to. -/
lemma putsOut_chunks_held (held : Text) {chunks : List Chunk} {outs : List (Except Failure Text)}
    (h : List.Forall₂ (Chunk.ComesTo s call p st) chunks outs) :
    st.PutsOut (execAll s call p (chunkStatements held chunks)) (together (.ok held) (joined outs)) := by
  induction chunks generalizing st held outs with
  | nil =>
    cases h
    rw [chunkStatements, ← List.append_nil (textStatements held)]
    exact putsOut_held fun st' _ => by rw [execAll]; exact .pure
  | cons chunk chunks ih =>
    cases h with
    | @cons _ out _ outs hout houts =>
      rw [joined, ← together_assoc]
      cases chunk with
      | text t ht =>
        obtain rfl : out = .ok t := hout
        exact ih (held ++ t) houts
      | value e =>
        obtain ⟨v, hv, rfl⟩ := hout
        rw [chunkStatements, together_assoc]
        refine putsOut_held fun st₁ hst₁ => ?_
        rw [execAll, Statement.exec]
        refine Store.PutsOut.bind ((hv st₁ hst₁).putsOut_bind fun v _ _ _ => putsOut_emit v) fun st₂ hst₂ => ?_
        have hrest := ih [] (houts.imp fun _ _ hout => hout.goesOn (hst₁.trans hst₂))
        rwa [together_nil_left] at hrest

/-- A flat block puts out what its chunks come to. -/
theorem putsOut_chunks {chunks : List Chunk} {outs : List (Except Failure Text)}
    (h : List.Forall₂ (Chunk.ComesTo s call p st) chunks outs) :
    st.PutsOut (execAll s call p (chunkStatements [] chunks)) (joined outs) :=
  together_nil_left (joined outs) ▸ putsOut_chunks_held [] h

/-! ### Blocks that set nothing -/

lemma set_statements_chunkStatements (outer : List Text) (names : Names) (held : Text) (chunks : List Chunk) :
    (names.statements outer (chunkStatements held chunks)).set = names.set := by
  have htext (names : Names) (held : Text) (others : List Statement) :
      names.statements outer (textStatements held ++ others) = names.statements outer others := by
    unfold textStatements
    split
    · rfl
    · rw [List.singleton_append, Names.statements, Names.statement]
  induction chunks generalizing names held with
  | nil =>
    have hnil := htext names held []
    rw [List.append_nil] at hnil
    rw [chunkStatements, hnil, Names.statements]
  | cons chunk chunks ih =>
    cases chunk with
    | text t ht => exact ih names (held ++ t)
    | value e =>
      rw [chunkStatements, htext, Names.statements, Names.statement, ih]
      rfl

/-! ### Loops -/

/-- The variables that a loop over `kept` sets for an item. -/
def roundCells (target : Text) (kept : List Value) (v : Value) (i : Nat) : Table Text (Option Value) :=
  [(target, some v), (loopName, some (.loop i kept))]

/-- A round of a loop puts out what its block puts out. -/
lemma putsOut_round {target : Text} {line i : Nat} {v : Value} {kept : List Value} {body : List Chunk}
    {r : Except Failure Text} (hshows : st.Shows p sc) (hp : p.IsRooted) (htarget : target ≠ loopName)
    (hbody : ∀ st₁ p₁, st.GoesOn st₁ → p₁.IsRooted → st₁.Shows p₁ (sc.inside (roundCells target kept v i)) →
      st₁.PutsOut (execAll s call p₁ (chunkStatements [] body)) r) :
    st.PutsOut (do
      let given := Table.set loopName (.loop i kept) (← Action.of ((Target.name target line).bind v))
      let inner ← Action.enter s p .loop (blockNames p.used given.keys (chunkStatements [] body)) given
      Action.beginRound inner
      execAll s call inner (chunkStatements [] body)) r := by
  have hgiven : Table.set loopName (.loop i kept) [(target, v)] = [(target, v), (loopName, .loop i kept)] := by
    rw [Table.set, if_neg htarget, Table.set]
  show st.PutsOut (Action.enter s p .loop (blockNames p.used (Table.set loopName (.loop i kept) [(target, v)]).keys
    (chunkStatements [] body)) (Table.set loopName (.loop i kept) [(target, v)]) >>= _) r
  rw [hgiven]
  generalize hnames : blockNames p.used (Table.keys [(target, v), (loopName, .loop i kept)]) (chunkStatements [] body) =
    names
  have hcells : sc.entered s names [(target, v), (loopName, .loop i kept)] = roundCells target kept v i := by
    have hset : names.set = [(target, false), (loopName, false)] := by
      rw [← hnames, blockNames, set_statements_chunkStatements]
      show Table.set loopName false [(target, false)] = _
      rw [Table.set, if_neg htarget, Table.set]
    rw [Scene.entered, hset]
    simp [roundCells, Table.get?, htarget]
  obtain ⟨r, st₁, -, henter, hst₁, hout₁, hshows₁⟩ := hshows.exists_enter (s := s) .loop names
    [(target, v), (loopName, .loop i kept)]
  rw [hcells] at hshows₁
  have hrooted := hp.within .loop names r.frames.size
  obtain ⟨st₂, hround, hst₂, hout₂⟩ := hshows₁.beginRound hrooted
  refine .of_bind henter hst₁ hout₁ (.of_bind hround hst₂ hout₂ ?_)
  exact hbody st₂ _ (hst₁.trans hst₂) hrooted (hshows₁.goesOn hst₂)

/-- A loop puts out what its rounds put out. -/
theorem putsOut_loop {target : Text} {line : Nat} {items : Expr} {body : List Chunk} {r : Except Failure Value}
    (out : List Value → Value → Nat → Except Failure Text) (hshows : st.Shows p sc) (hp : p.IsRooted)
    (htarget : target ≠ loopName) (hitems : items.eval s call p st = (r, st))
    (hbody : ∀ kept v i st₁ p₁, st.GoesOn st₁ → p₁.IsRooted → st₁.Shows p₁ (sc.inside (roundCells target kept v i)) →
      st₁.PutsOut (execAll s call p₁ (chunkStatements [] body)) (out kept v i)) :
    st.PutsOut ((Statement.loop (.name target line) items [] (chunkStatements [] body) []).exec s call p)
      (r >>= Value.items >>= fun kept => joined (kept.zipIdx.map fun x => out kept x.1 x.2)) := by
  rw [Statement.exec, bind_assoc]
  refine (Store.Gives.of_eq hitems).putsOut_bind fun v _ st₁ hst₁ => ?_
  refine (Store.Gives.of_eq rfl).putsOut_bind fun kept _ st₂ hst₂ => ?_
  extract_lets rounds
  have hrounds : st₂.PutsOut (rounds (kept, none)) (joined (kept.zipIdx.map fun x => out kept x.1 x.2)) := by
    rw [← together_nil_right (joined _)]
    refine Store.PutsOut.bind (.forM fun x _ st₃ hst₃ => ?_) fun st₃ hst₃ => ?_
    · have hgoesOn := (hst₁.trans hst₂).trans hst₃
      exact putsOut_round (hshows.goesOn hgoesOn) hp htarget fun st₄ p₄ hst₄ => hbody kept x.1 x.2 st₄ p₄ (hgoesOn.trans hst₄)
    · have hgoesOn := (hst₁.trans hst₂).trans hst₃
      show st₃.PutsOut (if kept.isEmpty then _ else _) _
      split
      · obtain ⟨r, st₄, -, henter, hst₄, hout, -⟩ := (hshows.goesOn hgoesOn).exists_enter (s := s) .inner
          (blockNames p.used [] []) []
        exact .of_bind henter hst₄ hout (by rw [execAll]; exact Store.PutsOut.pure)
      · exact .pure
  exact hrounds

/-! ### Macros -/

/-- Names that are not read at all are not read before they are set. -/
lemma readFirst_eq_nil {names : List Text} {body : List Mention} (h : ∀ n ∈ names, .reads n ∉ body) :
    readFirst names body = [] := by
  induction body generalizing names with
  | nil => rw [readFirst]
  | cons m rest ih =>
    have hrest : ∀ n ∈ names, .reads n ∉ rest := fun n hn hmem => h n hn (.tail _ hmem)
    cases m with
    | reads n =>
      have hn : n ∉ names := fun hn => h n hn (.head _)
      rw [readFirst, if_neg (by simpa using hn), ih hrest]
    | binds n => rw [readFirst, ih fun m hm => hrest m (List.mem_of_mem_filter hm)]
    | _ =>
      rw [readFirst]
      · exact ih hrest
      all_goals exact nofun

/-- Names with a meaning of their own in macros have none in one that does not read them. -/
lemma specialsOf_eq_nil {parameters : List Text} {body : List Mention} (h : readFirst specialNames body = []) :
    specialsOf parameters body = [] := by
  simp [specialsOf, h]

/-- A macro with one parameter gives what its block puts out. -/
theorem gives_callMacro {number : Nat} {name parameter : Text} {v : Value} {body : List Chunk}
    {r : Except Failure Text} (hshows : st.Shows p sc)
    (hm : st.memory.macros[number]? = some ⟨[⟨parameter, none⟩], chunkStatements [] body, p⟩)
    (hspecials : readFirst specialNames (mentionsAll (chunkStatements [] body)) = [])
    (hbody : ∀ st₁ p₁, st.GoesOn st₁ → st₁.Shows p₁ (sc.inside [(parameter, some v)]) →
      st₁.PutsOut (execAll s call p₁ (chunkStatements [] body)) r) :
    st.Gives (callMacro s call number name { placed := [v] }) (r.map s.content) := by
  have hcells : sc.entered s (macroNames p.used [⟨parameter, none⟩] (chunkStatements [] body)) [(parameter, v)] =
      [(parameter, some v)] := by
    rw [Scene.entered, macroNames, specialsOf_eq_nil hspecials, set_statements_chunkStatements]
    simp [Names.ofParameters, Names.read, Table.ofEntries, Table.setAll, Table.set, Table.get?]
  obtain ⟨r', st₁, -, henter, hst₁, hout, hshows₁⟩ := hshows.exists_enter (s := s) .whole
    (macroNames p.used [⟨parameter, none⟩] (chunkStatements [] body)) [(parameter, v)]
  rw [hcells] at hshows₁
  have hcaptured : st₁.Gives (Action.captured (execAll s call
      (p.within .whole (macroNames p.used [⟨parameter, none⟩] (chunkStatements [] body)) r'.frames.size)
      (chunkStatements [] body))) r :=
    .captured fun st₂ hst₂ => hbody st₂ _ (hst₁.trans hst₂) (hshows₁.goesOn hst₂)
  have hcontent := hcaptured.gives_bind (k := fun t => pure (s.content t)) (q := fun t => .ok (s.content t))
    fun t _ st₂ _ => .of_eq rfl
  have hresult : r.map s.content = r >>= fun t => .ok (s.content t) := by cases r <;> rfl
  have hcall : callMacro s call number name { placed := [v] } st =
      (Action.enter s p .whole (macroNames p.used [⟨parameter, none⟩] (chunkStatements [] body)) [(parameter, v)] >>=
        fun p₁ => Action.captured (execAll s call p₁ (chunkStatements [] body)) >>= fun t => pure (s.content t)) st := by
    have hvalues : Arguments.forMacro { placed := [v] } s name [parameter] [] = .ok ⟨[some v], []⟩ := rfl
    rw [callMacro_apply, hm]
    dsimp only
    rw [hspecials, List.map_singleton, hvalues]
    rfl
  rw [hresult]
  exact .of_apply hcall (.refl st) rfl (.of_bind henter hst₁ hout hcontent)

/-! ### Templates -/

/-- A template runs in a block of its own. -/
theorem putsOut_execTemplate {statements : List Statement} {given : Table Text Value} {r : Except Failure Text}
    (h : ∀ st₁ p₁, st.GoesOn st₁ → p₁.IsRooted →
      st₁.Shows p₁ ⟨[Scene.entered ⟨[], given⟩ s (templateNames statements) []], given⟩ →
      st₁.PutsOut (execAll s call p₁ statements) r) :
    st.PutsOut (execTemplate s call statements given) r := by
  obtain ⟨p₁, st₁, hbegin, hst₁, hout, -, -, hp, hshows⟩ := Store.exists_begin st s statements (templateNames statements) given
  exact .of_bind hbegin hst₁ hout (h st₁ p₁ hst₁ hp hshows)

/-- A template that begins with a macro has the macro as a variable. -/
theorem putsOut_execTemplate_define {n : Text} {parameters : List Parameter} {body rest : List Statement} {line : Nat}
    {given : Table Text Value} {r : Except Failure Text}
    (h : ∀ number st₁ p₁, st.GoesOn st₁ → p₁.IsRooted → st₁.memory.macros[number]? = some ⟨parameters, body, p₁⟩ →
      st₁.Shows p₁ ⟨[Table.set n (some (.callable (.macroCall number n)))
        (Scene.entered ⟨[], given⟩ s (templateNames (.define n parameters body line :: rest)) [])], given⟩ →
      st₁.PutsOut (execAll s call p₁ rest) r) :
    st.PutsOut (execTemplate s call (.define n parameters body line :: rest) given) r := by
  obtain ⟨p₁, st₁, hbegin, hst₁, hout, hrun, hframes, hp, hshows⟩ :=
    Store.exists_begin st s _ (templateNames (.define n parameters body line :: rest)) given
  obtain ⟨number, st₂, hdefine, hst₂, hout₂, hm, hshows₂⟩ := hshows.exists_define hframes ⟨parameters, body, p₁⟩ n
  have hgoesOn := hst₂ st hst₁ hrun
  have hexec : execTemplate s call (.define n parameters body line :: rest) given st =
      execAll s call p₁ rest st₂ := by
    refine (Action.bind_of_ok hbegin _).trans ?_
    rw [execAll, Statement.exec]
    exact Action.bind_of_ok hdefine _
  exact .of_apply hexec hgoesOn (hout₂.trans hout) (h number st₂ p₁ hgoesOn hp hm hshows₂)

end ComponentTags.Template
