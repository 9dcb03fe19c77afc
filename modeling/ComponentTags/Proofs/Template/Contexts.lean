/-
# Contexts of contents

A caller serves a rendering if its calls keep the store in order (`Serves`).  With such a caller, what
lowering writes for the context of a content gives a value that may be passed on as such: it calls the
function for contexts with `this` and `root`, or the operation of a context that has been entered, and the
journal says so.
-/
import ComponentTags.Proofs.Template.Stored

namespace ComponentTags

open Template

/-- The calls that occur in a rendering keep it in order. -/
structure Session.Serves (S : Session language) (call : Caller) : Prop where
  /-- Plain values may be called with plain arguments. -/
  plain : ∀ W p home callee a, W.homes[p.run]? = some home → callee.CallsOnly W.Plain →
    a.CallOnly W.Plain → S.Keeps W (call p callee a) fun W' v => v.CallsOnly W'.Plain
  /-- Blocks may be called with a context that has been entered. -/
  block : ∀ W p home callee carrier, W.homes[p.run]? = some home → Session.IsKnown W p.run callee →
    Session.IsEntered W home carrier →
    S.Keeps W (call p callee { placed := [carrier] }) fun W' v => v.CallsOnly W'.Plain
  /-- Components may be rendered with a context. -/
  renderer : ∀ W p home (name block attributes carrier : Value), W.homes[p.run]? = some home →
    name.CallsOnly W.Plain → block.CallsOnly W.Plain → attributes.CallsOnly W.Plain →
    S.Passes W home carrier →
    S.Keeps W (call p (.callable .renderer) { placed := [name, block, attributes, carrier] })
      fun W' v => v.CallsOnly W'.Plain
  /-- The function that renders components takes four arguments. -/
  renderer_one : ∀ W p home v, W.homes[p.run]? = some home → S.Keeps W (call p (.callable .renderer) { placed := [v] }) fun _ _ => False
  /-- The function for contexts makes them. -/
  scopeMaker : ∀ W p home vs, W.homes[p.run]? = some home → (∀ v ∈ vs, v.CallsOnly W.Plain) →
    S.Keeps W (call p (.callable .scopeMaker) { placed := vs }) fun W' v =>
      makeContext vs = .ok v ∧ v.CallsOnly W'.Plain ∧
        .answered home (.callable .scopeMaker) ⟨vs, []⟩ v ∈ W'.journal
  /-- Operations of contexts make contexts. -/
  operation : ∀ W p home (c : Context) n vs, W.homes[p.run]? = some home → c.toValue.CallsOnly W.Plain →
    (∀ v ∈ vs, v.CallsOnly W.Plain) →
    S.Keeps W (call p (.method c.toValue n) { placed := vs }) fun W' v =>
      c.operate n vs = .ok v ∧ v.CallsOnly W'.Plain ∧
        .answered home (.method c.toValue n) ⟨vs, []⟩ v ∈ W'.journal
  /-- A missing value cannot be called. -/
  undefined : ∀ W p strict reason a, S.Keeps W (call p (.undefined strict reason) a) fun _ _ => False

namespace Session

variable {S : Session language} {W : World} {call : Caller} {p : Place} {home : Home} {n : Text}

/-! ### Names -/

/-- What an expression may read is plain. -/
lemma Means.plain {run : Nat} {r : Option Value} (ho : S.HomeInOrder W home)
    (h : S.Means W run home n r) (hn : isReadable n = true) : ∀ v ∈ r, v.CallsOnly W.Plain := by
  have hrender : n ≠ renderFunction := by
    rintro rfl
    exact absurd hn (by decide)
  intro v hv
  by_cases hbound : n ∈ boundAll home.tree
  · have hsuits := h.suits hrender v hv
    rcases ho.isBindable hbound with htaken | hblock | rfl
    · exact hsuits.plain htaken
    · rw [isReadable_of_isBlockName hblock] at hn
      cases hn
    · exact (hsuits.carrier rfl).plain
  · rw [h.eq_resolved hbound] at hv
    exact ho.plain_of_resolved hv hrender

lemma keeps_eval_name (ho : W.homes[p.run]? = some home) (hn : isReadable n = true) :
    S.Keeps W ((Expr.name n).eval S.setting call p) fun W' v =>
      v.CallsOnly W'.Plain ∧ S.StandsFor home n v := by
  refine keeps_of_home ho fun hhome => ?_
  rw [Expr.eval]
  refine (keeps_value? ho).bind fun W' r hW hr => Keeps.pure ⟨?_, fun hbound => ?_⟩
  · exact Value.OptionCallsOnly.getD (hr.plain (hhome.mono hW) hn) .undefined
  · rw [hr.eq_resolved hbound]
    rfl

/-! ### Captured variables -/

/-- Captured variables with plain values. -/
structure PlainCaptures (S : Session language) (W : World) (home : Home) (es : List (Value × Value)) :
    Prop where
  captures : S.Captures home es
  plain : ∀ e ∈ es, e.2.CallsOnly W.Plain

lemma Captures.setEntry {es : List (Value × Value)} {v : Value} (h : S.Captures home es)
    (hv : S.StandsFor home n v) : S.Captures home (setEntry es (.text n) v) := by
  unfold Template.setEntry
  split
  · intro e he
    obtain ⟨old, hold, rfl⟩ := List.mem_map.mp he
    obtain ⟨m, hm, hrest⟩ := h old hold
    dsimp only
    split
    · next hequal =>
      -- the key of the old entry is the text of the new one
      have hmn : m = n := by
        rw [hm] at hequal
        simpa [Value.equal, Value.equalWithin] using hequal
      exact ⟨n, by rw [hm, hmn], hv⟩
    · exact ⟨m, hm, hrest⟩
  · exact List.forall_mem_append.mpr ⟨h, List.forall_mem_singleton.mpr ⟨n, rfl, hv⟩⟩

/-- The dictionary of captured variables. -/
lemma Captures.gives_dictOf {es : List (Value × Value)} (h : S.Captures home es) :
    Gives (fun v => ∃ es', v = .dict es' ∧ S.Captures home es') (dictOf es) := by
  unfold dictOf
  split
  · exact Gives.throw
  · refine Gives.pure_iff.mpr ⟨_, rfl, ?_⟩
    refine List.foldlRecOn es _ (fun _ he => by cases he) fun _ hes e he => ?_
    obtain ⟨n, hn, hv⟩ := h e he
    obtain ⟨k, v⟩ := e
    dsimp only at hn hv ⊢
    rw [hn]
    exact hes.setEntry hv

lemma keeps_evalEntries_captured {captured : List (Expr × Expr)} (ho : W.homes[p.run]? = some home)
    (h : captured.all isCapturedEntry = true) (hallowed : ∀ x ∈ mentionsOfEntries captured, x.IsAllowed) :
    S.Keeps W (evalEntries S.setting call p captured) fun W' es => S.PlainCaptures W' home es := by
  induction captured generalizing W with
  | nil => exact Keeps.pure { captures := nofun, plain := nofun }
  | cons entry rest ih =>
    rw [List.all_cons, Bool.and_eq_true] at h
    obtain ⟨hentry, hrest⟩ := h
    unfold isCapturedEntry at hentry
    split at hentry
    · next n m =>
      rw [decide_eq_true_eq] at hentry
      subst hentry
      rw [mentionsOfEntries, List.forall_mem_append, List.forall_mem_append] at hallowed
      have hreadable : isReadable n = true := hallowed.1.2 (.reads n) (by simp [Expr.mentions])
      rw [evalEntries, Expr.eval]
      refine Keeps.bind (Q := fun _ v => v = .text n) (Keeps.pure rfl) fun W₁ key hW₁ hkey => ?_
      have ho₁ := World.getElem?_homes hW₁ ho
      refine (keeps_eval_name ho₁ hreadable).bind fun W₂ v hW₂ hv => ?_
      have ho₂ := World.getElem?_homes hW₂ ho₁
      refine (ih ho₂ hrest hallowed.2).bind fun W₃ es hW₃ hes => Keeps.pure ⟨?_, ?_⟩
      · exact List.forall_mem_cons.mpr ⟨⟨n, hkey, hv.2⟩, hes.captures⟩
      · exact List.forall_mem_cons.mpr ⟨hv.1.mono (World.Plain.mono hW₃), hes.plain⟩
    · cases hentry

lemma PlainCaptures.entriesCallOnly {es : List (Value × Value)} (h : S.PlainCaptures W home es) :
    Value.EntriesCallOnly W.Plain es := by
  intro e he
  obtain ⟨n, hn, -⟩ := h.captures e he
  rw [hn]
  exact ⟨.text, h.plain e he⟩

lemma keeps_eval_captured {captured : List (Expr × Expr)} (ho : W.homes[p.run]? = some home)
    (h : captured.all isCapturedEntry = true) (hallowed : ∀ x ∈ mentionsOfEntries captured, x.IsAllowed) :
    S.Keeps W ((Expr.dict captured).eval S.setting call p) fun W' v =>
      v.CallsOnly W'.Plain ∧ ∃ es, v = .dict es ∧ S.Captures home es := by
  rw [Expr.eval]
  exact (keeps_evalEntries_captured ho h hallowed).bind fun W' es hW hes => Keeps.of fun v hv =>
    ⟨gives_dictOf hes.entriesCallOnly v hv, hes.captures.gives_dictOf v hv⟩

/-! ### Contexts -/

lemma keeps_evalArguments_placed {known : Arguments} {e : Expr} {rest : List (Passing × Expr)}
    {Q : World → Value → Prop} {T : World → Arguments → Prop}
    (h : S.Keeps W (e.eval S.setting call p) Q)
    (hrest : ∀ W' v, W ≤ W' → Q W' v →
      S.Keeps W' (evalArguments S.setting call p { known with placed := known.placed ++ [v] } rest) T) :
    S.Keeps W (evalArguments S.setting call p known ((.placed, e) :: rest)) T := by
  rw [evalArguments]
  exact h.bind fun W₁ v hW₁ hv => Keeps.of_bind (Gives.pure_iff.mpr (hrest W₁ v hW₁ hv))

lemma keeps_eval_contextName (ho : W.homes[p.run]? = some home) :
    S.Keeps W ((Expr.name contextName).eval S.setting call p) fun W' v => IsEntered W' home v := by
  rw [Expr.eval]
  refine (keeps_value? ho).bind fun W' r hW hr => Keeps.pure ?_
  cases r with
  | none => exact .undefined
  | some v => exact (hr.suits (by decide) v rfl).carrier rfl

lemma keeps_eval_newContext (hcall : S.Serves call) {captured : List (Expr × Expr)}
    (ho : W.homes[p.run]? = some home) (hcaptured : captured.all isCapturedEntry = true)
    (hallowed : ∀ x ∈ mentionsOfEntries captured, x.IsAllowed) :
    S.Keeps W ((Expr.call (.name scopeFunction) [(.placed, .name thisName),
      (.placed, .name rootName), (.placed, .dict captured)]).eval S.setting call p)
      fun W' v => S.Passes W' home v := by
  refine keeps_of_home ho fun hhome => ?_
  rw [Expr.eval]
  refine (keeps_eval_name ho (by decide)).bind fun W₁ f hW₁ hf => ?_
  have ho₁ := World.getElem?_homes hW₁ ho
  have hf : f = .callable .scopeMaker := by
    rw [hf.2 (hhome.not_mem_bound (by simp)), meaning, hhome.resolved_scopeFunction, Option.getD_some]
  refine Keeps.bind (Q := fun W' a => ∃ this root es, a = { placed := [this, root, .dict es] } ∧
    (∀ v ∈ a.placed, v.CallsOnly W'.Plain) ∧ S.StandsFor home thisName this ∧
    S.StandsFor home rootName root ∧ S.Captures home es) ?_ ?_
  · refine keeps_evalArguments_placed (keeps_eval_name ho₁ (by decide)) fun W₂ this hW₂ hthis => ?_
    have ho₂ := World.getElem?_homes hW₂ ho₁
    refine keeps_evalArguments_placed (keeps_eval_name ho₂ (by decide)) fun W₃ root hW₃ hroot => ?_
    have ho₃ := World.getElem?_homes hW₃ ho₂
    refine keeps_evalArguments_placed (keeps_eval_captured ho₃ hcaptured hallowed) fun W₄ d hW₄ hd => ?_
    obtain ⟨hplain, es, rfl, hes⟩ := hd
    refine Keeps.pure ⟨this, root, es, rfl, ?_, hthis.2, hroot.2, hes⟩
    simp only [List.nil_append, List.cons_append, List.forall_mem_cons]
    exact ⟨hthis.1.mono (World.Plain.mono (hW₃.trans hW₄)), hroot.1.mono (World.Plain.mono hW₄), hplain, nofun⟩
  · rintro W₂ a hW₂ ⟨this, root, es, rfl, hplain, hthis, hroot, hes⟩
    subst hf
    have ho₂ := World.getElem?_homes hW₂ ho₁
    refine (hcall.scopeMaker W₂ p home _ ho₂ hplain).mono fun W₃ v hW₃ hv => ?_
    obtain ⟨hmade, hvplain, hanswered⟩ := hv
    obtain ⟨locals, -, hcontext⟩ := exists_of_bind_eq_ok hmade
    cases hcontext
    exact .context hvplain (.fresh hthis hroot hes hanswered)

/-- The operation that extends a context. -/
lemma lookUpAttribute_extend {v : Value} (h : IsEntered W home v) :
    Gives (fun f => (∃ dot root locals, v = .context dot root locals ∧ f = .method v "extend") ∨
      ∃ strict reason, f = .undefined strict reason) (Value.lookUpAttribute S.setting.missing v "extend") := by
  cases h with
  | none => exact Gives.pure_iff.mpr (.inr ⟨_, _, rfl⟩)
  | undefined => exact Gives.error
  | callable h => exact Gives.pure_iff.mpr (.inr ⟨_, _, rfl⟩)
  | context => exact Gives.pure_iff.mpr (.inl ⟨_, _, _, rfl, rfl⟩)

lemma keeps_eval_extendedContext (hcall : S.Serves call) {captured : List (Expr × Expr)}
    (ho : W.homes[p.run]? = some home) (hcaptured : captured.all isCapturedEntry = true)
    (hallowed : ∀ x ∈ mentionsOfEntries captured, x.IsAllowed) :
    S.Keeps W ((Expr.call (.member (.name contextName) "extend")
      [(.placed, .dict captured)]).eval S.setting call p) fun W' v => S.Passes W' home v := by
  rw [Expr.eval, Expr.eval]
  refine Keeps.bind (Q := fun W' f => ∃ v, IsEntered W' home v ∧
    ((∃ dot root locals, v = .context dot root locals ∧ f = .method v "extend") ∨
      ∃ strict reason, f = .undefined strict reason)) ?_ ?_
  · refine (keeps_eval_contextName ho).bind fun W₁ v hW₁ hv => Keeps.of ?_
    exact (lookUpAttribute_extend (S := S) hv).mono fun f hf => ⟨v, hv, hf⟩
  · rintro W₁ f hW₁ ⟨v, hv, hf⟩
    have ho₁ := World.getElem?_homes hW₁ ho
    refine Keeps.bind (Q := fun W' a => ∃ es, a = { placed := [.dict es] } ∧
      (∀ v ∈ a.placed, v.CallsOnly W'.Plain) ∧ S.Captures home es) ?_ ?_
    · refine keeps_evalArguments_placed (keeps_eval_captured ho₁ hcaptured hallowed) fun W₂ d hW₂ hd => ?_
      obtain ⟨hplain, es, rfl, hes⟩ := hd
      exact Keeps.pure ⟨es, rfl, List.forall_mem_singleton.mpr hplain, hes⟩
    · rintro W₂ a hW₂ ⟨es, rfl, hplain, hes⟩
      have ho₂ := World.getElem?_homes hW₂ ho₁
      rcases hf with ⟨dot, root, locals, rfl, rfl⟩ | ⟨strict, reason, rfl⟩
      · have hv₂ := hv.mono hW₂
        refine (hcall.operation W₂ p home ⟨dot, root, locals⟩ _ _ ho₂ hv₂.plain hplain).mono
          fun W₃ w hW₃ hw => ?_
        obtain ⟨hmade, hwplain, hanswered⟩ := hw
        obtain ⟨new, -, hcontext⟩ := exists_of_bind_eq_ok hmade
        cases hcontext
        cases hv₂ with
        | context _ hentered =>
          exact .context hwplain (.extended (World.mem_journal hW₃ hentered) hes hanswered)
      · exact (hcall.undefined W₂ p _ _ _).mono fun _ _ _ hno => hno.elim

/-- What lowering writes for a context gives something that may be passed on as one. -/
lemma keeps_eval_carrier (hcall : S.Serves call) {e : Expr} (ho : W.homes[p.run]? = some home)
    (h : e.isCarrier = true) (hallowed : ∀ x ∈ e.mentions, x.IsAllowed) :
    S.Keeps W (e.eval S.setting call p) fun W' v => S.Passes W' home v := by
  unfold Expr.isCarrier at h
  split at h
  · rw [Expr.eval]
    exact Keeps.pure .none
  · -- the context of the content
    next n =>
    rw [decide_eq_true_eq] at h
    subst h
    exact (keeps_eval_contextName ho).mono fun W' v _ hv =>
      IsCarrier.mono le_rfl (fun _ => .passed) hv
  · -- a new context
    next n this root captured =>
    simp only [Bool.and_eq_true, decide_eq_true_eq] at h
    obtain ⟨⟨⟨rfl, rfl⟩, rfl⟩, hcaptured⟩ := h
    exact keeps_eval_newContext hcall ho hcaptured fun x hx => hallowed x (by
      simp [Expr.mentions, mentionsOfArguments, hx])
  · -- a context with further variables
    next n operation captured =>
    simp only [Bool.and_eq_true, decide_eq_true_eq] at h
    obtain ⟨⟨rfl, rfl⟩, hcaptured⟩ := h
    exact keeps_eval_extendedContext hcall ho hcaptured fun x hx => hallowed x (by
      simp [Expr.mentions, mentionsOfArguments, hx])
  · cases h

end Session

end ComponentTags
