/-
# Evaluating keeps renderings in order

With a caller that serves a rendering, an expression that does with names what it may keeps the store in
order and gives a plain value.  There is one lemma for each kind of expression, and one for the calls that
lowering writes for components.
-/
import ComponentTags.Proofs.Template.Contexts

namespace ComponentTags

open Template

namespace Session

/-- Evaluating an expression at a place keeps the rendering in order and gives a plain value. -/
def Evaluates (S : Session language) (call : Caller) (p : Place) (e : Expr) : Prop :=
  ∀ W home, W.homes[p.run]? = some home →
    S.Keeps W (e.eval S.setting call p) fun W' v => v.CallsOnly W'.Plain

variable {S : Session language} {W : World} {call : Caller} {p : Place} {home : Home} {n : Text}
  {e first second : Expr} {items : List Expr} {arguments : List (Passing × Expr)}

/-! ### Several expressions -/

lemma keeps_evalAll (h : ∀ e ∈ items, S.Evaluates call p e) (ho : W.homes[p.run]? = some home) :
    S.Keeps W (evalAll S.setting call p items) fun W' vs => ∀ v ∈ vs, v.CallsOnly W'.Plain := by
  induction items generalizing W with
  | nil => exact Keeps.pure nofun
  | cons e rest ih =>
    obtain ⟨he, hrest⟩ := List.forall_mem_cons.mp h
    rw [evalAll]
    refine (he W home ho).bind fun W₁ v hW₁ hv => ?_
    refine (ih hrest (World.getElem?_homes hW₁ ho)).bind fun W₂ vs hW₂ hvs => Keeps.pure ?_
    exact List.forall_mem_cons.mpr ⟨hv.mono (World.Plain.mono hW₂), hvs⟩

lemma keeps_evalEntries {entries : List (Expr × Expr)}
    (h : ∀ e ∈ entries, S.Evaluates call p e.1 ∧ S.Evaluates call p e.2) (ho : W.homes[p.run]? = some home) :
    S.Keeps W (evalEntries S.setting call p entries) fun W' es => Value.EntriesCallOnly W'.Plain es := by
  induction entries generalizing W with
  | nil => exact Keeps.pure nofun
  | cons e rest ih =>
    obtain ⟨he, hrest⟩ := List.forall_mem_cons.mp h
    rw [evalEntries]
    refine (he.1 W home ho).bind fun W₁ k hW₁ hk => ?_
    have ho₁ := World.getElem?_homes hW₁ ho
    refine (he.2 W₁ home ho₁).bind fun W₂ v hW₂ hv => ?_
    have ho₂ := World.getElem?_homes hW₂ ho₁
    refine (ih hrest ho₂).bind fun W₃ es hW₃ hes => Keeps.pure ?_
    exact List.forall_mem_cons.mpr
      ⟨⟨hk.mono (World.Plain.mono (hW₂.trans hW₃)), hv.mono (World.Plain.mono hW₃)⟩, hes⟩

lemma keeps_evalArguments {known : Arguments} (h : ∀ a ∈ arguments, S.Evaluates call p a.2)
    (hknown : known.CallOnly W.Plain) (ho : W.homes[p.run]? = some home) :
    S.Keeps W (evalArguments S.setting call p known arguments) fun W' a => a.CallOnly W'.Plain := by
  induction arguments generalizing W known with
  | nil => exact Keeps.pure hknown
  | cons a rest ih =>
    obtain ⟨ha, hrest⟩ := List.forall_mem_cons.mp h
    rw [evalArguments]
    refine (ha W home ho).bind fun W₁ v hW₁ hv => ?_
    have hadd : Gives (Arguments.CallOnly W₁.Plain) (known.add a.1 v) :=
      (hknown.mono (World.Plain.mono hW₁)).gives_add hv
    exact Keeps.of_bind (hadd.mono fun b hb => ih hrest hb (World.getElem?_homes hW₁ ho))

lemma keeps_evalComparisons {others : List (Comparison × Expr)} {left : Value}
    (h : ∀ c ∈ others, S.Evaluates call p c.2) (ho : W.homes[p.run]? = some home) :
    S.Keeps W (evalComparisons S.setting call p left others) fun W' v => v.CallsOnly W'.Plain := by
  induction others generalizing W left with
  | nil => exact Keeps.pure .bool
  | cons c rest ih =>
    obtain ⟨hc, hrest⟩ := List.forall_mem_cons.mp h
    rw [evalComparisons]
    refine (hc W home ho).bind fun W₁ right hW₁ _ => ?_
    refine Keeps.of_bind (Gives.trivial fun holds => ?_)
    cases holds with
    | true => exact ih hrest (World.getElem?_homes hW₁ ho)
    | false => exact Keeps.pure .bool

/-! ### Kinds of expressions -/

namespace Evaluates

lemma literal {l : Literal} : S.Evaluates call p (.literal l) := fun _ _ _ => by
  rw [Expr.eval_literal]
  exact Keeps.pure callsOnly_value

lemma noAlternative {line : Nat} : S.Evaluates call p (.noAlternative line) := fun _ _ _ => by
  rw [Expr.eval]
  exact Keeps.pure .undefined

lemma name (hn : isReadable n = true) : S.Evaluates call p (.name n) := fun _ _ ho =>
  (keeps_eval_name ho hn).mono fun _ _ _ hv => hv.1

lemma list (h : ∀ e ∈ items, S.Evaluates call p e) : S.Evaluates call p (.list items) := fun W home ho => by
  rw [Expr.eval]
  exact (keeps_evalAll h ho).bind fun _ _ _ hvs => Keeps.pure (.list hvs)

lemma tuple (h : ∀ e ∈ items, S.Evaluates call p e) : S.Evaluates call p (.tuple items) := fun W home ho => by
  rw [Expr.eval]
  exact (keeps_evalAll h ho).bind fun _ _ _ hvs => Keeps.pure (.tuple hvs)

lemma concat (h : ∀ e ∈ items, S.Evaluates call p e) : S.Evaluates call p (.concat items) :=
  fun W home ho => by
    rw [Expr.eval]
    exact (keeps_evalAll h ho).bind fun _ _ _ _ => Keeps.of gives_joinValues

lemma dict {entries : List (Expr × Expr)}
    (h : ∀ e ∈ entries, S.Evaluates call p e.1 ∧ S.Evaluates call p e.2) :
    S.Evaluates call p (.dict entries) := fun W home ho => by
  rw [Expr.eval]
  exact (keeps_evalEntries h ho).bind fun _ _ _ hes => Keeps.of (gives_dictOf hes)

lemma member (h : S.Evaluates call p e) : S.Evaluates call p (.member e n) := fun W home ho => by
  rw [Expr.eval]
  exact (h W home ho).bind fun _ _ _ hv => Keeps.of (Value.gives_lookUpAttribute hv)

lemma item (hfirst : S.Evaluates call p first) (hsecond : S.Evaluates call p second) :
    S.Evaluates call p (.item first second) := fun W home ho => by
  rw [Expr.eval]
  refine (hfirst W home ho).bind fun W₁ v hW₁ hv => ?_
  refine (hsecond W₁ home (World.getElem?_homes hW₁ ho)).bind fun W₂ k hW₂ _ => ?_
  exact Keeps.of (Value.gives_lookUpItem (hv.mono (World.Plain.mono hW₂)))

lemma slice {start stop step : Expr} (h : S.Evaluates call p e) (hstart : S.Evaluates call p start)
    (hstop : S.Evaluates call p stop) (hstep : S.Evaluates call p step) :
    S.Evaluates call p (.slice e start stop step) := fun W home ho => by
  rw [Expr.eval]
  refine (h W home ho).bind fun W₁ v hW₁ hv => ?_
  have ho₁ := World.getElem?_homes hW₁ ho
  refine (hstart W₁ home ho₁).bind fun W₂ _ hW₂ _ => ?_
  have ho₂ := World.getElem?_homes hW₂ ho₁
  refine (hstop W₂ home ho₂).bind fun W₃ _ hW₃ _ => ?_
  have ho₃ := World.getElem?_homes hW₃ ho₂
  refine (hstep W₃ home ho₃).bind fun W₄ _ hW₄ _ => ?_
  exact Keeps.of (gives_slice (hv.mono (World.Plain.mono (hW₂.trans (hW₃.trans hW₄)))))

/-- A plain value is called with plain arguments. -/
lemma application (hcall : S.Serves call) (h : S.Evaluates call p e)
    (harguments : ∀ a ∈ arguments, S.Evaluates call p a.2) : S.Evaluates call p (.call e arguments) :=
  fun W home ho => by
    rw [Expr.eval]
    refine (h W home ho).bind fun W₁ f hW₁ hf => ?_
    have ho₁ := World.getElem?_homes hW₁ ho
    refine (keeps_evalArguments harguments Arguments.callOnly_empty ho₁).bind fun W₂ a hW₂ ha => ?_
    exact hcall.plain W₂ p home f a (World.getElem?_homes hW₂ ho₁) (hf.mono (World.Plain.mono hW₂)) ha

lemma filter {line : Nat} (h : S.Evaluates call p e) (harguments : ∀ a ∈ arguments, S.Evaluates call p a.2) :
    S.Evaluates call p (.filter e n arguments line) := fun W home ho => by
  rw [Expr.eval]
  refine (h W home ho).bind fun W₁ v hW₁ hv => ?_
  have ho₁ := World.getElem?_homes hW₁ ho
  refine (keeps_evalArguments harguments Arguments.callOnly_empty ho₁).bind fun W₂ a hW₂ ha => ?_
  exact Keeps.of (Filter.gives_apply (hv.mono (World.Plain.mono hW₂)) ha)

lemma test {line : Nat} (h : S.Evaluates call p e) (harguments : ∀ a ∈ arguments, S.Evaluates call p a.2) :
    S.Evaluates call p (.test e n arguments line) := fun W home ho => by
  rw [Expr.eval]
  refine (h W home ho).bind fun W₁ v hW₁ _ => ?_
  have ho₁ := World.getElem?_homes hW₁ ho
  refine (keeps_evalArguments harguments Arguments.callOnly_empty ho₁).bind fun W₂ a hW₂ _ => ?_
  exact Keeps.of_bind (Gives.trivial fun _ => Keeps.pure .bool)

lemma signed {negative : Bool} (h : S.Evaluates call p e) : S.Evaluates call p (.signed negative e) :=
  fun W home ho => by
    rw [Expr.eval]
    exact (h W home ho).bind fun _ _ _ _ => Keeps.of Value.gives_signed

lemma negation (h : S.Evaluates call p e) : S.Evaluates call p (.negation e) := fun W home ho => by
  rw [Expr.eval]
  exact (h W home ho).bind fun _ _ _ _ => Keeps.of_bind (Gives.trivial fun _ => Keeps.pure .bool)

lemma binary {operator : Value.Operator} (hfirst : S.Evaluates call p first) (hsecond : S.Evaluates call p second) :
    S.Evaluates call p (.binary operator first second) := fun W home ho => by
  rw [Expr.eval]
  refine (hfirst W home ho).bind fun W₁ a hW₁ ha => ?_
  refine (hsecond W₁ home (World.getElem?_homes hW₁ ho)).bind fun W₂ b hW₂ hb => ?_
  exact Keeps.of (Value.gives_operate (ha.mono (World.Plain.mono hW₂)) hb)

lemma both (hfirst : S.Evaluates call p first) (hsecond : S.Evaluates call p second) :
    S.Evaluates call p (.both first second) := fun W home ho => by
  rw [Expr.eval]
  refine (hfirst W home ho).bind fun W₁ a hW₁ ha => ?_
  refine Keeps.of_bind (Gives.trivial fun truth => ?_)
  cases truth with
  | true => exact hsecond W₁ home (World.getElem?_homes hW₁ ho)
  | false => exact Keeps.pure ha

lemma either (hfirst : S.Evaluates call p first) (hsecond : S.Evaluates call p second) :
    S.Evaluates call p (.either first second) := fun W home ho => by
  rw [Expr.eval]
  refine (hfirst W home ho).bind fun W₁ a hW₁ ha => ?_
  refine Keeps.of_bind (Gives.trivial fun truth => ?_)
  cases truth with
  | true => exact Keeps.pure ha
  | false => exact hsecond W₁ home (World.getElem?_homes hW₁ ho)

lemma compare {others : List (Comparison × Expr)} (hfirst : S.Evaluates call p first)
    (hothers : ∀ c ∈ others, S.Evaluates call p c.2) : S.Evaluates call p (.compare first others) :=
  fun W home ho => by
    rw [Expr.eval]
    exact (hfirst W home ho).bind fun W₁ a hW₁ _ =>
      keeps_evalComparisons hothers (World.getElem?_homes hW₁ ho)

lemma choice (h : S.Evaluates call p e) (hfirst : S.Evaluates call p first)
    (hsecond : S.Evaluates call p second) : S.Evaluates call p (.choice e first second) := fun W home ho => by
  rw [Expr.eval]
  refine (h W home ho).bind fun W₁ _ hW₁ _ => ?_
  have ho₁ := World.getElem?_homes hW₁ ho
  refine Keeps.of_bind (Gives.trivial fun truth => ?_)
  cases truth with
  | true => exact hfirst W₁ home ho₁
  | false => exact hsecond W₁ home ho₁

end Evaluates

/-! ### Calls that lowering writes -/

/-- The name of the function that renders components stands for it, or for a function that replaces it. -/
lemma keeps_eval_renderFunction (ho : W.homes[p.run]? = some home) :
    S.Keeps W ((Expr.name renderFunction).eval S.setting call p) fun _ f =>
      f = .callable .renderer ∨ ∃ k, f = .callable (.function k) := by
  refine keeps_of_home ho fun hhome => ?_
  rw [Expr.eval]
  refine (keeps_value? ho).bind fun W₁ r _ hr => Keeps.pure ?_
  rw [hr.eq_resolved (hhome.not_mem_bound (by simp))]
  refine hhome.resolved_renderFunction.imp (fun h => ?_) (Exists.imp fun k h => ?_)
  all_goals rw [h, Option.getD_some]

/-- A call that lowering writes for a component renders it with the context of its place. -/
lemma evaluates_callout (hcall : S.Serves call) (hcallout : isCallout e arguments = true)
    (hallowed : ∀ x ∈ mentionsOfArguments arguments, x.IsAllowed)
    (h : ∀ a ∈ arguments, S.Evaluates call p a.2) : S.Evaluates call p (.call e arguments) := by
  intro W home ho
  unfold isCallout at hcallout
  split at hcallout
  · next n name block attributes carrier =>
    simp only [Bool.and_eq_true, decide_eq_true_eq] at hcallout
    obtain ⟨rfl, hcarrier⟩ := hcallout
    simp only [List.forall_mem_cons] at h
    obtain ⟨hname, hblock, hattributes, -, -⟩ := h
    have hallowed : ∀ x ∈ carrier.mentions, x.IsAllowed := fun x hx => hallowed x (by
      simp [mentionsOfArguments, hx])
    rw [Expr.eval]
    refine (keeps_eval_renderFunction ho).bind fun W₁ f hW₁ hf => ?_
    have ho₁ := World.getElem?_homes hW₁ ho
    refine Keeps.bind (Q := fun W' a => ∃ name block attributes carrier : Value,
      a = { placed := [name, block, attributes, carrier] } ∧ name.CallsOnly W'.Plain ∧
        block.CallsOnly W'.Plain ∧ attributes.CallsOnly W'.Plain ∧ S.Passes W' home carrier) ?_ ?_
    · refine keeps_evalArguments_placed (hname W₁ home ho₁) fun W₂ v₁ hW₂ hv₁ => ?_
      have ho₂ := World.getElem?_homes hW₂ ho₁
      refine keeps_evalArguments_placed (hblock W₂ home ho₂) fun W₃ v₂ hW₃ hv₂ => ?_
      have ho₃ := World.getElem?_homes hW₃ ho₂
      refine keeps_evalArguments_placed (hattributes W₃ home ho₃) fun W₄ v₃ hW₄ hv₃ => ?_
      have ho₄ := World.getElem?_homes hW₄ ho₃
      refine keeps_evalArguments_placed (keeps_eval_carrier hcall ho₄ hcarrier hallowed)
        fun W₅ v₄ hW₅ hv₄ => Keeps.pure ⟨v₁, v₂, v₃, v₄, rfl, ?_, ?_, ?_, hv₄⟩
      · exact hv₁.mono (World.Plain.mono (hW₃.trans (hW₄.trans hW₅)))
      · exact hv₂.mono (World.Plain.mono (hW₄.trans hW₅))
      · exact hv₃.mono (World.Plain.mono hW₅)
    · rintro W₂ a hW₂ ⟨name, block, attributes, carrier, rfl, h₁, h₂, h₃, h₄⟩
      have ho₂ := World.getElem?_homes hW₂ ho₁
      rcases hf with rfl | ⟨k, rfl⟩
      · exact hcall.renderer W₂ p home _ _ _ _ ho₂ h₁ h₂ h₃ h₄
      · exact hcall.plain W₂ p home _ _ ho₂ (.callable trivial)
          ⟨by simp [h₁, h₂, h₃, h₄.plain], .nil⟩
  · cases hcallout

/-! ### All expressions -/

mutual

/-- An expression that does with names what it may gives a plain value. -/
lemma evaluates (hcall : S.Serves call) :
    ∀ e : Expr, (∀ x ∈ e.mentions, x.IsAllowed) → S.Evaluates call p e
  | .literal _, _ => .literal
  | .noAlternative _, _ => .noAlternative
  | .name n, h => .name (h (.reads n) (by simp [Expr.mentions]))
  | .list items, h => .list (evaluates_items hcall items h)
  | .tuple items, h => .tuple (evaluates_items hcall items h)
  | .concat items, h => .concat (evaluates_items hcall items h)
  | .dict entries, h => .dict (evaluates_entries hcall entries h)
  | .member owner _, h => .member (evaluates hcall owner h)
  | .item owner key, h => by
    rw [Expr.mentions, List.forall_mem_append] at h
    exact .item (evaluates hcall owner h.1) (evaluates hcall key h.2)
  | .slice owner start stop step, h => by
    simp only [Expr.mentions, List.forall_mem_append] at h
    obtain ⟨⟨⟨howner, hstart⟩, hstop⟩, hstep⟩ := h
    exact .slice (evaluates hcall owner howner) (evaluates hcall start hstart)
      (evaluates hcall stop hstop) (evaluates hcall step hstep)
  | .call callee arguments, h => by
    rw [Expr.mentions, List.forall_mem_append] at h
    have harguments := evaluates_arguments hcall arguments h.2
    cases hcallout : isCallout callee arguments with
    | true => exact evaluates_callout hcall hcallout h.2 harguments
    | false =>
      rw [hcallout] at h
      exact .application hcall (evaluates hcall callee h.1) harguments
  | .filter subject _ arguments _, h => by
    rw [Expr.mentions, List.forall_mem_append] at h
    exact .filter (evaluates hcall subject h.1) (evaluates_arguments hcall arguments h.2)
  | .test subject _ arguments _, h => by
    rw [Expr.mentions, List.forall_mem_append] at h
    exact .test (evaluates hcall subject h.1) (evaluates_arguments hcall arguments h.2)
  | .signed _ operand, h => .signed (evaluates hcall operand h)
  | .negation operand, h => .negation (evaluates hcall operand h)
  | .binary _ left right, h => by
    rw [Expr.mentions, List.forall_mem_append] at h
    exact .binary (evaluates hcall left h.1) (evaluates hcall right h.2)
  | .both left right, h => by
    rw [Expr.mentions, List.forall_mem_append] at h
    exact .both (evaluates hcall left h.1) (evaluates hcall right h.2)
  | .either left right, h => by
    rw [Expr.mentions, List.forall_mem_append] at h
    exact .either (evaluates hcall left h.1) (evaluates hcall right h.2)
  | .compare first others, h => by
    rw [Expr.mentions, List.forall_mem_append] at h
    exact .compare (evaluates hcall first h.1) (evaluates_others hcall others h.2)
  | .choice condition yes no, h => by
    simp only [Expr.mentions, List.forall_mem_append] at h
    obtain ⟨⟨hcondition, hyes⟩, hno⟩ := h
    exact .choice (evaluates hcall condition hcondition) (evaluates hcall yes hyes)
      (evaluates hcall no hno)

lemma evaluates_items (hcall : S.Serves call) :
    ∀ es : List Expr, (∀ x ∈ mentionsOfItems es, x.IsAllowed) → ∀ e ∈ es, S.Evaluates call p e
  | [], _ => nofun
  | e :: rest, h => by
    rw [mentionsOfItems, List.forall_mem_append] at h
    exact List.forall_mem_cons.mpr ⟨evaluates hcall e h.1, evaluates_items hcall rest h.2⟩

lemma evaluates_entries (hcall : S.Serves call) :
    ∀ es : List (Expr × Expr), (∀ x ∈ mentionsOfEntries es, x.IsAllowed) →
      ∀ e ∈ es, S.Evaluates call p e.1 ∧ S.Evaluates call p e.2
  | [], _ => nofun
  | (k, v) :: rest, h => by
    simp only [mentionsOfEntries, List.forall_mem_append] at h
    obtain ⟨⟨hk, hv⟩, hrest⟩ := h
    exact List.forall_mem_cons.mpr
      ⟨⟨evaluates hcall k hk, evaluates hcall v hv⟩, evaluates_entries hcall rest hrest⟩

lemma evaluates_arguments (hcall : S.Serves call) :
    ∀ es : List (Passing × Expr), (∀ x ∈ mentionsOfArguments es, x.IsAllowed) →
      ∀ a ∈ es, S.Evaluates call p a.2
  | [], _ => nofun
  | (_, e) :: rest, h => by
    rw [mentionsOfArguments, List.forall_mem_append] at h
    exact List.forall_mem_cons.mpr ⟨evaluates hcall e h.1, evaluates_arguments hcall rest h.2⟩

lemma evaluates_others (hcall : S.Serves call) :
    ∀ es : List (Comparison × Expr), (∀ x ∈ mentionsOfOthers es, x.IsAllowed) →
      ∀ c ∈ es, S.Evaluates call p c.2
  | [], _ => nofun
  | (_, e) :: rest, h => by
    rw [mentionsOfOthers, List.forall_mem_append] at h
    exact List.forall_mem_cons.mpr ⟨evaluates hcall e h.1, evaluates_others hcall rest h.2⟩

end

end Session

end ComponentTags
