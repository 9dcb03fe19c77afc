/-
# Places of a run

A store goes on (`Store.GoesOn`) if all macros and all blocks that were in it are there still, unchanged.  What is
seen at a place of such a store does not change (`Scene`, `Store.Shows`): names have the values that the scene gives
them, and a block that is entered shows the scene with the variables of the block.

An action that leaves a store which has gone on ends with a value and a text that was put out, or with a failure
(`Store.Ends`).  There is one rule for every way in which actions are put together.
-/
import Mathlib.Tactic.Lemma
import ComponentTags.Template.Execute

namespace ComponentTags.Template

variable {α β : Type} {st st' st'' : Store} {s : Setting} {p : Place} {n : Text}

/-! ### Actions one after the other -/

namespace Action

lemma bind_apply (a : Action α) (k : α → Action β) (st : Store) : (a >>= k) st =
    match a st with
    | (.ok v, st') => k v st'
    | (.error f, st') => (.error f, st') := by
  simp only [Bind.bind, ExceptT.bind, ExceptT.mk, StateT.bind]
  rcases a st with ⟨_ | _, _⟩ <;> rfl

lemma bind_of_ok {a : Action α} {v : α} (h : a st = (.ok v, st')) (k : α → Action β) : (a >>= k) st = k v st' := by
  rw [bind_apply, h]

lemma bind_of_error {a : Action α} {f : Failure} (h : a st = (.error f, st')) (k : α → Action β) :
    (a >>= k) st = (.error f, st') := by
  rw [bind_apply, h]

lemma mapM_of_ok {f : α → Action β} {g : α → β} {xs : List α} (h : ∀ x ∈ xs, f x st = (.ok (g x), st)) :
    xs.mapM f st = (.ok (xs.map g), st) := by
  induction xs with
  | nil => rfl
  | cons x xs ih =>
    rw [List.mapM_cons, bind_of_ok (h x (.head _)), bind_of_ok (ih fun y hy => h y (.tail _ hy))]
    rfl

lemma value?_apply : value? s p n st = (.ok (st.memory.value? s p n), st) := rfl

end Action

lemma callMacro_apply {s : Setting} {call : Caller} {number : Nat} {name : Text} {a : Arguments}
    {st : Store} : callMacro s call number name a st =
      (match st.memory.macros[number]? with
        | none => Action.fail (.notCallable "Macro")
        | some m => do
          let vs ← Action.of (a.forMacro s name (m.parameters.map Parameter.name)
            (readFirst specialNames (mentionsAll m.body)))
          let entries := m.parameters.zip vs.parameters
          let given := entries.filterMap fun (parameter, v) => v.map fun v => (parameter.name, v)
          let p ← Action.enter s m.place .whole (macroNames m.place.used m.parameters m.body)
            (given ++ vs.specials)
          completeParameters s call p entries
          return s.content (← Action.captured (execAll s call p m.body)) : Action Value) st := rfl

/-! ### Stores that go on -/

/-- What there was is there still: the macros, the variables that templates were given, and their blocks. -/
structure Store.GoesOn (st st' : Store) : Prop where
  /-- The macros are the same. -/
  macros : ∀ (i : Nat) m, st.memory.macros[i]? = some m → st'.memory.macros[i]? = some m
  /-- The templates that run were given the same, and their blocks are the same. -/
  runs : ∀ (i : Nat) r, st.memory.runs[i]? = some r → ∃ r', st'.memory.runs[i]? = some r' ∧
    r'.given = r.given ∧ ∀ (j : Nat) f, r.frames[j]? = some f → r'.frames[j]? = some f

namespace Store.GoesOn

lemma refl (st : Store) : st.GoesOn st := ⟨fun _ _ h => h, fun _ r h => ⟨r, h, rfl, fun _ _ hf => hf⟩⟩

lemma trans (h : st.GoesOn st') (h' : st'.GoesOn st'') : st.GoesOn st'' where
  macros := fun i m hm => h'.macros i m (h.macros i m hm)
  runs := by
    intro i r hr
    obtain ⟨r', hr', hgiven, hframes⟩ := h.runs i r hr
    obtain ⟨r'', hr'', hgiven', hframes'⟩ := h'.runs i r' hr'
    exact ⟨r'', hr'', hgiven'.trans hgiven, fun j f hf => hframes' j f (hframes j f hf)⟩

/-- What was put out and what belongs to the engine make no difference. -/
lemma of_memory (h : st'.memory = st.memory) : st.GoesOn st' :=
  ⟨fun _ _ hm => by rwa [h], fun _ r hr => ⟨r, by rwa [h], rfl, fun _ _ hf => hf⟩⟩

/-- A change of a run that keeps what it was given and its blocks. -/
lemma changeRun {number : Nat} {change : Run → Run} (h : ∀ r, st.memory.runs[number]? = some r →
      (change r).given = r.given ∧ ∀ (j : Nat) f, r.frames[j]? = some f → (change r).frames[j]? = some f) :
    st.GoesOn { st with memory.runs := st.memory.runs.modify number change } where
  macros := fun _ _ hm => hm
  runs := by
    intro i r hr
    rw [Array.getElem?_modify, hr]
    by_cases hi : number = i
    · subst hi
      exact ⟨change r, by rw [if_pos rfl]; rfl, h r hr⟩
    · exact ⟨r, by rw [if_neg hi], rfl, fun _ _ hf => hf⟩

end Store.GoesOn

/-! ### Scenes -/

/-- What is seen at a place: the variables of the blocks around it, the innermost first, and those that the
template was given. -/
structure Scene where
  /-- The variables of the blocks. -/
  blocks : List (Table Text (Option Value))
  /-- What the template was given. -/
  given : Table Text Value

namespace Scene

/-- The value of a name outside all blocks. -/
def global? (sc : Scene) (s : Setting) (n : Text) : Option Value := sc.given.get? n <|> s.globals.get? n

/-- The value of a name. -/
def value? (sc : Scene) (s : Setting) (n : Text) : Option Value :=
  (sc.blocks.findSome? fun cells => cells.get? n).getD (sc.global? s n)

/-- The variables of a block that is entered. -/
def entered (sc : Scene) (s : Setting) (names : Names) (given : Table Text Value) : Table Text (Option Value) :=
  names.set.map fun (n, fromOutside) => (n, given.get? n <|> if fromOutside then sc.value? s n else none)

/-- The scene inside of a further block. -/
def inside (sc : Scene) (cells : Table Text (Option Value)) : Scene := { sc with blocks := cells :: sc.blocks }

end Scene

/-- A place shows a scene. -/
structure Store.Shows (st : Store) (p : Place) (sc : Scene) : Prop where
  /-- The blocks around the place have the variables of the scene, and no loop has set any. -/
  exists_run : ∃ r, st.memory.runs[p.run]? = some r ∧ r.given = sc.given ∧
    (p.frames.map fun i => r.frames[i]?) = sc.blocks.map fun cells => some { cells := cells }

/-- The place inside of a block that is entered. -/
def Place.within (p : Place) (kind : Action.BlockKind) (names : Names) (number : Nat) : Place where
  run := p.run
  frames := number :: p.frames
  used := names.used ++ p.used
  base := if kind = .whole then number else p.base
  inLoop := kind = .loop

/-- The outermost block of a place is that of the whole template. -/
structure Place.IsRooted (p : Place) : Prop where
  /-- The block of the whole template is the first one. -/
  getLast?_frames : p.frames.getLast? = some 0
  /-- The block of the template or the macro is around the place. -/
  base_mem : p.base ∈ p.frames

lemma Place.IsRooted.within (h : p.IsRooted) (kind : Action.BlockKind) (names : Names) (number : Nat) :
    (p.within kind names number).IsRooted where
  getLast?_frames := by
    show (number :: p.frames).getLast? = some 0
    rw [List.getLast?_cons, h.getLast?_frames, Option.getD_some]
  base_mem := by
    show (if kind = .whole then number else p.base) ∈ number :: p.frames
    split
    · exact .head _
    · exact .tail _ h.base_mem

namespace Store.Shows

variable {sc : Scene}

lemma goesOn (h : st.Shows p sc) (hst : st.GoesOn st') : st'.Shows p sc := by
  obtain ⟨r, hr, hgiven, hframes⟩ := h.exists_run
  obtain ⟨r', hr', hgiven', hframes'⟩ := hst.runs p.run r hr
  refine ⟨r', hr', hgiven'.trans hgiven, ?_⟩
  rw [← hframes]
  refine List.map_congr_left fun i hi => ?_
  obtain ⟨cells, -, hcells⟩ := List.mem_map.mp (hframes ▸ List.mem_map_of_mem hi)
  rw [← hcells]
  exact hframes' i _ hcells.symm

lemma global?_eq (h : st.Shows p sc) : st.memory.global? s p n = sc.global? s n := by
  obtain ⟨r, hr, hgiven, -⟩ := h.exists_run
  rw [Memory.global?, hr, Option.bind_some, hgiven]
  rfl

/-- A name has the value that the scene gives it. -/
lemma value?_eq (h : st.Shows p sc) : Action.value? s p n st = (.ok (sc.value? s n), st) := by
  have hcell : st.memory.cell? p.run p.frames n = sc.blocks.findSome? fun cells => cells.get? n := by
    obtain ⟨r, hr, -, hframes⟩ := h.exists_run
    calc st.memory.cell? p.run p.frames n
        = (p.frames.map fun i => r.frames[i]?).findSome? fun f => f.bind fun f => f.cells.get? n := by
          rw [List.findSome?_map, Memory.cell?]
          simp only [Memory.frame?, hr, Option.bind_some, Function.comp_def]
      _ = sc.blocks.findSome? fun cells => cells.get? n := by
          rw [hframes, List.findSome?_map]
          rfl
  rw [Action.value?_apply, Memory.value?, hcell, Scene.value?]
  cases sc.blocks.findSome? fun cells => cells.get? n with
  | some v => rfl
  | none => exact congrArg (fun v => (Except.ok v, st)) h.global?_eq

/-- A function that is called finds a variable of the whole template. -/
lemma lookUp?_eq {cells : Table Text (Option Value)} {v : Value} (h : st.Shows p sc) (hp : p.IsRooted)
    (hlast : sc.blocks.getLast? = some cells) (hv : cells.get? n = some (some v)) :
    st.memory.lookUp? s p n = some v := by
  obtain ⟨r, hr, -, hframes⟩ := h.exists_run
  have hframe (i : Nat) : st.memory.frame? p.run i = r.frames[i]? := by
    rw [Memory.frame?, hr, Option.bind_some]
  have hloop : (if p.inLoop then (st.memory.frame? p.run p.base).bind fun f => f.loopVariables.get? n
      else none) = none := by
    obtain ⟨cells', -, hbase⟩ := List.mem_map.mp (hframes ▸ List.mem_map_of_mem hp.base_mem)
    rw [hframe, ← hbase]
    exact ite_self none
  have hroot : r.frames[0]? = some { cells := cells } := by
    have hends := congrArg List.getLast? hframes
    rw [List.getLast?_map, List.getLast?_map, hp.getLast?_frames, hlast] at hends
    exact Option.some.inj hends
  have htemplate : st.memory.cell? p.run [0] n = some (some v) := by
    rw [Memory.cell?, List.findSome?_cons, hframe, hroot, Option.bind_some, hv]
  rw [Memory.lookUp?, hloop, htemplate]
  rfl

/-- A block that is entered shows its variables too. -/
theorem exists_enter (h : st.Shows p sc) (kind : Action.BlockKind) (names : Names) (given : Table Text Value) :
    ∃ (r : Run) (st' : Store), st.memory.runs[p.run]? = some r ∧
      Action.enter s p kind names given st = (.ok (p.within kind names r.frames.size), st') ∧
      st.GoesOn st' ∧ st'.output = st.output ∧
      st'.Shows (p.within kind names r.frames.size) (sc.inside (sc.entered s names given)) := by
  obtain ⟨r, hr, hgiven, hframes⟩ := h.exists_run
  let frame : Frame := { cells := sc.entered s names given }
  let change (r : Run) : Run := { r with frames := r.frames.push frame }
  have hgoesOn : st.GoesOn { st with memory.runs := st.memory.runs.modify p.run change } := by
    refine .changeRun fun r _ => ⟨rfl, fun j f hf => ?_⟩
    obtain ⟨hlt, rfl⟩ := Array.getElem?_eq_some_iff.mp hf
    rw [Array.getElem?_push_lt hlt]
  refine ⟨r, { st with memory.runs := st.memory.runs.modify p.run change }, hr, ?_, hgoesOn, rfl, ?_⟩
  · refine (Action.bind_of_ok (Action.mapM_of_ok (g := fun x => (x.1, given.get? x.1 <|>
      if x.2 then sc.value? s x.1 else none)) fun x _ => ?_) _).trans ?_
    · obtain ⟨n, fromOutside⟩ := x
      dsimp only
      cases given.get? n with
      | some v => rfl
      | none =>
        cases fromOutside with
        | false => rfl
        | true => exact Action.bind_of_ok h.value?_eq _
    · have hnumber : ((st.memory.runs[p.run]?).map fun r => r.frames.size).getD 0 = r.frames.size := by rw [hr]; rfl
      rw [← hnumber]
      rfl
  · refine ⟨change r, ?_, hgiven, ?_⟩
    · show (st.memory.runs.modify p.run change)[p.run]? = _
      rw [Array.getElem?_modify, if_pos rfl, hr]
      rfl
    · have hnew : (change r).frames[r.frames.size]? = some frame := Array.getElem?_push_size
      rw [Place.within, List.map_cons, hnew, Scene.inside, List.map_cons, ← hframes]
      refine congrArg _ (List.map_congr_left fun i hi => ?_)
      obtain ⟨cells, -, hcells⟩ := List.mem_map.mp (hframes ▸ List.mem_map_of_mem hi)
      obtain ⟨hlt, -⟩ := Array.getElem?_eq_some_iff.mp hcells.symm
      exact (Array.getElem?_push_lt hlt).trans (Array.getElem?_eq_getElem hlt).symm

/-- Beginning a round changes nothing where no loop has set anything. -/
lemma beginRound (h : st.Shows p sc) (hp : p.IsRooted) :
    ∃ st' : Store, Action.beginRound p st = (.ok (), st') ∧ st.GoesOn st' ∧ st'.output = st.output := by
  obtain ⟨r, hr, -, hframes⟩ := h.exists_run
  obtain ⟨cells, -, hbase⟩ := List.mem_map.mp (hframes ▸ List.mem_map_of_mem hp.base_mem)
  refine ⟨_, rfl, .changeRun fun r' hr' => ⟨rfl, fun j f hf => ?_⟩, rfl⟩
  obtain rfl := Option.some.inj (hr.symm.trans hr')
  rw [Array.getElem?_modify, hf]
  split
  · next hj =>
    subst hj
    obtain rfl := Option.some.inj (hbase.trans hf)
    rfl
  · rfl

/-- A macro of a template is a variable of the whole template from its definition on. -/
theorem exists_define {cells : Table Text (Option Value)} {given : Table Text Value} (h : st.Shows p ⟨[cells], given⟩)
    (hp : p.frames = [0]) (m : Macro) (n : Text) :
    ∃ (number : Nat) (st' : Store), (do Action.define p n (.callable (.macroCall (← Action.addMacro m) n)) : Action Unit) st =
        (.ok (), st') ∧
      (∀ st₀ : Store, st₀.GoesOn st → st₀.memory.runs[p.run]? = none → st₀.GoesOn st') ∧
      st'.output = st.output ∧ st'.memory.macros[number]? = some m ∧
      st'.Shows p ⟨[Table.set n (some (.callable (.macroCall number n))) cells], given⟩ := by
  obtain ⟨r, hr, hgiven, hframes⟩ := h.exists_run
  rw [hp] at hframes
  have hframe : r.frames[0]? = some { cells := cells } := (List.cons.inj hframes).1
  let change (f : Frame) : Frame := { f with cells := Table.set n (some (.callable (.macroCall st.memory.macros.size n))) f.cells }
  let st' : Store :=
    { st with
      memory.macros := st.memory.macros.push m
      memory.runs := st.memory.runs.modify p.run fun r => { r with frames := r.frames.modify 0 change } }
  refine ⟨st.memory.macros.size, st', ?_, fun st₀ hst hrun => ⟨fun i m hm => ?_, fun i r hr => ?_⟩, rfl,
    Array.getElem?_push_size, { r with frames := r.frames.modify 0 change }, ?_, hgiven, ?_⟩
  · show Action.define p n _ _ = _
    rw [Action.define, hp]
    rfl
  · have hold := hst.macros i m hm
    exact (Array.getElem?_push_lt (Array.getElem?_eq_some_iff.mp hold).1).trans
      ((Array.getElem?_eq_getElem _).symm.trans hold)
  · -- the run of the template is none of the old ones
    obtain ⟨r', hr', hold⟩ := hst.runs i r hr
    have hi : p.run ≠ i := by
      rintro rfl
      cases hrun.symm.trans hr
    exact ⟨r', (Array.getElem?_modify.trans (if_neg hi)).trans hr', hold⟩
  · show (st.memory.runs.modify p.run _)[p.run]? = _
    rw [Array.getElem?_modify, if_pos rfl, hr]
    rfl
  · rw [hp]
    show [(r.frames.modify 0 change)[0]?] = _
    rw [Array.getElem?_modify, if_pos rfl, hframe]
    rfl

end Store.Shows

/-- A template that begins shows its variables and what it is given. -/
theorem Store.exists_begin (st : Store) (s : Setting) (statements : List Statement) (names : Names)
    (given : Table Text Value) :
    ∃ (p : Place) (st' : Store), Action.begin s statements names given st = (.ok p, st') ∧ st.GoesOn st' ∧ st'.output = st.output ∧
      st.memory.runs[p.run]? = none ∧ p.frames = [0] ∧ p.IsRooted ∧
      st'.Shows p ⟨[Scene.entered ⟨[], given⟩ s names []], given⟩ := by
  let p : Place := { run := st.memory.runs.size, frames := [], used := [], base := 0, inLoop := false }
  let run : Run := { tree := statements, given := given }
  let st₁ : Store := { st with memory.runs := st.memory.runs.push run }
  have hgoesOn : st.GoesOn st₁ := by
    refine ⟨fun _ _ hm => hm, fun i r hr => ⟨r, ?_, rfl, fun _ _ hf => hf⟩⟩
    obtain ⟨hlt, -⟩ := Array.getElem?_eq_some_iff.mp hr
    exact (Array.getElem?_push_lt hlt).trans ((Array.getElem?_eq_getElem hlt).symm.trans hr)
  have hrun : st₁.memory.runs[p.run]? = some run := Array.getElem?_push_size
  have hbegins : st₁.Shows p ⟨[], given⟩ := ⟨_, hrun, rfl, rfl⟩
  obtain ⟨r, st₂, hr, henter, hst₂, hout, hshows⟩ := hbegins.exists_enter (s := s) .whole names []
  obtain rfl : r = run := Option.some.inj (hr.symm.trans hrun)
  exact ⟨_, st₂, henter, hgoesOn.trans hst₂, hout, Array.getElem?_size, rfl, ⟨rfl, .head _⟩, hshows⟩

/-! ### How actions end -/

/-- An action gives a value, puts out a text and leaves a store that has gone on, or it fails. -/
def Store.Ends (st : Store) (a : Action α) : Except Failure (α × Text) → Prop
  | .ok (v, t) => ∃ st', a st = (.ok v, st') ∧ st.GoesOn st' ∧ st'.output = st.output ++ t
  | .error f => (a st).1 = .error f

/-- An action gives a value and puts out nothing, or it fails. -/
abbrev Store.Gives (st : Store) (a : Action α) (r : Except Failure α) : Prop := st.Ends a (r.map fun v => (v, []))

/-- An action puts out a text, or it fails. -/
abbrev Store.PutsOut (st : Store) (a : Action Unit) (r : Except Failure Text) : Prop :=
  st.Ends a (r.map fun t => ((), t))

/-- What two parts put out, one after the other, if none of them fails. -/
def together (r q : Except Failure Text) : Except Failure Text := do return (← r) ++ (← q)

lemma together_nil_left (r : Except Failure Text) : together (.ok []) r = r := by cases r <;> rfl

lemma together_nil_right (r : Except Failure Text) : together r (.ok []) = r := by
  cases r with
  | error f => rfl
  | ok t => exact congrArg Except.ok (List.append_nil t)

lemma together_assoc (r r' r'' : Except Failure Text) :
    together (together r r') r'' = together r (together r' r'') := by
  cases r with
  | error f => rfl
  | ok t =>
    cases r' with
    | error f => rfl
    | ok u =>
      cases r'' with
      | error f => rfl
      | ok w => exact congrArg Except.ok (List.append_assoc t u w)

namespace Store

variable {a : Action α} {k : α → Action β} {r : Except Failure α}

lemma Gives.of_eq (h : a st = (r, st)) : st.Gives a r := by
  cases r with
  | error f => exact congrArg Prod.fst h
  | ok v => exact ⟨st, h, .refl st, (List.append_nil _).symm⟩

/-- An action ends as another one does from a store that has gone on. -/
lemma Ends.of_apply {a' : Action α} {q : Except Failure (α × Text)} (ha : a st = a' st') (hst : st.GoesOn st')
    (hout : st'.output = st.output) (h : st'.Ends a' q) : st.Ends a q := by
  cases q with
  | error f => exact (congrArg Prod.fst ha).trans h
  | ok v =>
    obtain ⟨st'', ha', hst', hout'⟩ := h
    exact ⟨st'', ha.trans ha', hst.trans hst', hout'.trans (by rw [hout])⟩

lemma Ends.of_bind {v : α} {q : Except Failure (β × Text)} (ha : a st = (.ok v, st')) (hst : st.GoesOn st')
    (hout : st'.output = st.output) (hk : st'.Ends (k v) q) : st.Ends (a >>= k) q :=
  .of_apply (Action.bind_of_ok ha k) hst hout hk

lemma Gives.bind {q : α → Except Failure (β × Text)} (h : st.Gives a r)
    (hk : ∀ v, r = .ok v → ∀ st', st.GoesOn st' → st'.Ends (k v) (q v)) : st.Ends (a >>= k) (r >>= q) := by
  cases r with
  | error f =>
    have herror : a st = (.error f, (a st).2) := Prod.ext h rfl
    exact congrArg Prod.fst (Action.bind_of_error herror k)
  | ok v =>
    obtain ⟨st₁, ha, hst₁, hout⟩ := h
    exact .of_bind ha hst₁ (hout.trans (List.append_nil _)) (hk v rfl st₁ hst₁)

lemma Gives.gives_bind {q : α → Except Failure β} (h : st.Gives a r)
    (hk : ∀ v, r = .ok v → ∀ st', st.GoesOn st' → st'.Gives (k v) (q v)) : st.Gives (a >>= k) (r >>= q) := by
  have hbind := h.bind hk
  cases r <;> exact hbind

lemma Gives.putsOut_bind {k : α → Action Unit} {q : α → Except Failure Text} (h : st.Gives a r)
    (hk : ∀ v, r = .ok v → ∀ st', st.GoesOn st' → st'.PutsOut (k v) (q v)) : st.PutsOut (a >>= k) (r >>= q) := by
  have hbind := h.bind hk
  cases r <;> exact hbind

/-- What is put out by actions one after the other is put together. -/
lemma PutsOut.bind {a : Action Unit} {k : Unit → Action Unit} {r q : Except Failure Text} (h : st.PutsOut a r)
    (hk : ∀ st', st.GoesOn st' → st'.PutsOut (k ()) q) : st.PutsOut (a >>= k) (together r q) := by
  cases r with
  | error f =>
    have herror : a st = (.error f, (a st).2) := Prod.ext h rfl
    exact congrArg Prod.fst (Action.bind_of_error herror k)
  | ok t =>
    obtain ⟨st₁, ha, hst₁, hout⟩ := h
    have hrest := hk st₁ hst₁
    cases q with
    | error f => exact (congrArg Prod.fst (Action.bind_of_ok ha k)).trans hrest
    | ok u =>
      obtain ⟨st₂, hk, hst₂, hout'⟩ := hrest
      exact ⟨st₂, (Action.bind_of_ok ha k).trans hk, hst₁.trans hst₂, by rw [hout', hout, List.append_assoc]⟩

lemma PutsOut.pure : st.PutsOut (Pure.pure ()) (.ok []) := Gives.of_eq (r := .ok ()) rfl

lemma PutsOut.put (t : Text) : st.PutsOut (Action.put t) (.ok t) :=
  ⟨_, rfl, .of_memory rfl, by simp [Host.Store.output]⟩

/-- What an action puts out is held back. -/
lemma Gives.captured {a : Action Unit} {r : Except Failure Text} (h : ∀ st', st.GoesOn st' → st'.PutsOut a r) :
    st.Gives (Action.captured a) r := by
  have hempty := h { st with written := [] } (.of_memory rfl)
  unfold Gives Ends Action.captured
  cases r with
  | error f =>
    have herror : a { st with written := [] } = (.error f, (a { st with written := [] }).2) := Prod.ext hempty rfl
    show (_ : Except Failure Text × Store).1 = _
    rw [herror]
  | ok t =>
    obtain ⟨st', ha, hst', hout⟩ := hempty
    have hbegin : st.GoesOn { st with written := [] } := .of_memory rfl
    have hend : GoesOn st' { st' with written := st.written } := .of_memory rfl
    refine ⟨{ st' with written := st.written }, ?_, (hbegin.trans hst').trans hend, ?_⟩
    · rw [ha]
      exact congrArg (fun t => (Except.ok t, _)) hout
    · exact (List.append_nil _).symm

/-- What does not fail need not recover. -/
lemma Gives.recovering {v : α} {other : Failure → Action α} (h : st.Gives a (.ok v)) :
    st.Gives (Action.recovering a other) (.ok v) := by
  obtain ⟨st', ha, hst', hout⟩ := h
  exact ⟨st', by rw [Action.recovering, ha], hst', hout⟩

end Store

end ComponentTags.Template
