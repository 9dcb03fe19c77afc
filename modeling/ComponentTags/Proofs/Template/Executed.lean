/-
# Executing statements keeps renderings in order

Statements that do with names what they may keep the store in order at every place of their template, with a
caller that serves the rendering (`Executes`).  What they set are plain values under names without a meaning
of their own, and the blocks that lowering has written.
-/
import ComponentTags.Proofs.Template.Evaluated

namespace ComponentTags

open Template

/-! ### Targets -/

/-- A table has values for some names only, and all that can be called in them has a property. -/
def Template.Target.Binds (P : Callable → Prop) (names : List Text) (t : Table Text Value) : Prop :=
  ∀ entry ∈ t, entry.1 ∈ names ∧ entry.2.CallsOnly P

namespace Template

variable {P : Callable → Prop} {names : List Text} {t new : Table Text Value} {v : Value}

lemma Target.Binds.setAll {names' : List Text} (h : Target.Binds P names t)
    (hnew : Target.Binds P names' new) : Target.Binds P (names ++ names') (t.setAll new) := by
  intro entry hentry
  rcases Table.mem_of_mem_setAll hentry with hentry | hentry
  · exact ⟨List.mem_append_left _ (h entry hentry).1, (h entry hentry).2⟩
  · exact ⟨List.mem_append_right _ (hnew entry hentry).1, (hnew entry hentry).2⟩

lemma gives_unpacked {count : Nat} (h : v.CallsOnly P) :
    Gives (fun vs => ∀ v ∈ vs, v.CallsOnly P) (unpacked count v) := by
  unfold unpacked
  split
  · exact Gives.error
  · split
    · exact Gives.error
    · next parts hparts =>
      split_ifs
      · exact Gives.error
      · exact Gives.error
      · exact Gives.ok_iff.mpr (Value.gives_items h parts hparts)

mutual

lemma Target.gives_bind : ∀ (t : Target) {v : Value}, v.CallsOnly P →
    Gives (Target.Binds P t.names) (t.bind v)
  | .name n _, v, h => by
    rw [Target.bind]
    exact Gives.ok_iff.mpr (by simpa [Target.Binds, Target.names] using h)
  | .tuple parts, v, h => by
    rw [Target.bind]
    cases hvs : unpacked parts.length v with
    | error f => exact Gives.error
    | ok vs => exact gives_bindTargets parts (gives_unpacked h vs hvs)
  | .member .., v, h => Gives.error

lemma gives_bindTargets : ∀ (ts : List Target) {vs : List Value}, (∀ v ∈ vs, v.CallsOnly P) →
    Gives (Target.Binds P (namesOfAll ts)) (bindTargets ts vs)
  | [], vs, h => Gives.ok_iff.mpr nofun
  | t :: ts, [], h => Gives.ok_iff.mpr nofun
  | t :: ts, v :: vs, h => by
    obtain ⟨hv, hvs⟩ := List.forall_mem_cons.mp h
    rw [bindTargets]
    exact (Target.gives_bind t hv).bind fun first hfirst =>
      (gives_bindTargets ts hvs).bind fun rest hrest => Gives.pure_iff.mpr (hfirst.setAll hrest)

end

lemma callsOnly_content {s : Setting} {text : Text} : (s.content text).CallsOnly P := by
  unfold Setting.content
  split
  · exact .markup
  · exact .text

end Template

/-- Names that may be set have no meaning of their own. -/
lemma Mention.allowed_binds {names : List Text} :
    (∀ x ∈ names.map Mention.binds, x.IsAllowed) ↔ ∀ n ∈ names, ComponentClass.isTaken n = false := by
  rw [List.forall_mem_map]
  rfl

namespace Session

variable {S : Session language} {W : World} {call : Caller} {p : Place} {home : Home} {n : Text}

/-- What a target of a template sets suits the names. -/
lemma AllSuit.of_binds {run : Nat} {names : List Text} {t : Table Text Value}
    (h : Target.Binds W.Plain names t) (hnames : ∀ n ∈ names, ComponentClass.isTaken n = false)
    (hbound : ∀ n ∈ names, n ∈ boundAll home.tree) : AllSuit W run home t := by
  intro entry hentry
  obtain ⟨hn, hv⟩ := h entry hentry
  exact ⟨hbound _ hn, .of_plain hv (hnames _ hn)⟩

/-! ### Parts of statements -/

lemma keeps_emit {v : Value} : S.Keeps W (emit S.setting v) fun _ _ => True :=
  Keeps.of_bind (Gives.trivial fun _ => Keeps.put)

lemma keeps_applyFilters (hcall : S.Serves call) {filters : List BlockFilter} {content : Value}
    (h : ∀ x ∈ filters.flatMap fun f => mentionsOfArguments f.arguments, x.IsAllowed)
    (ho : W.homes[p.run]? = some home) (hcontent : content.CallsOnly W.Plain) :
    S.Keeps W (applyFilters S.setting call p content filters) fun W' v => v.CallsOnly W'.Plain := by
  induction filters generalizing W content with
  | nil => exact Keeps.pure hcontent
  | cons f rest ih =>
    rw [List.flatMap_cons, List.forall_mem_append] at h
    have harguments := evaluates_arguments (p := p) hcall f.arguments h.1
    rw [applyFilters]
    refine (keeps_evalArguments harguments Arguments.callOnly_empty ho).bind fun W₁ a hW₁ ha => ?_
    exact Keeps.of_bind ((Filter.gives_apply (hcontent.mono (World.Plain.mono hW₁)) ha).mono
      fun v hv => ih h.2 (World.getElem?_homes hW₁ ho) hv)

/-- Entering a block of a template, in which some variables have plain values already. -/
lemma keeps_enter_block {kind : Action.BlockKind} {outer parameters : List Text} {body : List Statement}
    {given : Table Text Value} (ho : W.homes[p.run]? = some home) (hparameters : given.keys = parameters)
    (hgiven : AllSuit W p.run home given) (hbody : ∀ n ∈ boundAll body, n ∈ boundAll home.tree) :
    S.Keeps W (Action.enter S.setting p kind (Template.blockNames outer parameters body) given)
      fun W' p' => W'.homes[p'.run]? = some home := by
  subst hparameters
  refine (keeps_enter ho (fun n hn => ?_) fun entry he => (hgiven entry he).2).mono
    fun W' p' hW hp' => ?_
  · rcases mem_keys_blockNames hn with hn | hn
    · obtain ⟨entry, hentry, rfl⟩ := List.mem_map.mp hn
      exact (hgiven entry hentry).1
    · exact hbody n hn
  · rw [hp']
    exact World.getElem?_homes hW ho

/-- Entering a block of a template in which no variable has a value. -/
lemma keeps_enter_inner {outer : List Text} {body : List Statement} (ho : W.homes[p.run]? = some home)
    (hbody : ∀ n ∈ boundAll body, n ∈ boundAll home.tree) :
    S.Keeps W (Action.enter S.setting p .inner (Template.blockNames outer [] body) [])
      fun W' p' => W'.homes[p'.run]? = some home :=
  keeps_enter_block ho rfl (fun _ he => by cases he) hbody

lemma keeps_meets (hcall : S.Serves call) {target : Target} {conditions : List Expr} {v : Value}
    (ho : W.homes[p.run]? = some home)
    (htarget : ∀ n ∈ target.names, ComponentClass.isTaken n = false)
    (hbound : ∀ n ∈ target.names, n ∈ boundAll home.tree)
    (hconditions : ∀ x ∈ mentionsOfItems conditions, x.IsAllowed) (hv : v.CallsOnly W.Plain) :
    S.Keeps W (meets S.setting call p target conditions v) fun _ _ => True := by
  unfold meets
  refine Keeps.of_bind ((target.gives_bind hv).mono fun given hgiven => ?_)
  have hsuits : AllSuit W p.run home given := .of_binds hgiven htarget hbound
  refine (keeps_enter_block ho rfl hsuits (by simp [boundAll, mentionsAll])).bind fun W₁ inner hW₁ hinner => ?_
  refine Keeps.allM fun W₂ hW₂ e he => ?_
  have ho₂ := World.getElem?_homes hW₂ hinner
  exact (evaluates_items hcall conditions hconditions e he W₂ home ho₂).bind fun _ _ _ _ =>
    Keeps.of (Gives.trivial fun _ => trivial)

lemma keeps_selected (hcall : S.Serves call) {target : Target} {conditions : List Expr} {vs : List Value}
    (ho : W.homes[p.run]? = some home)
    (htarget : ∀ n ∈ target.names, ComponentClass.isTaken n = false)
    (hbound : ∀ n ∈ target.names, n ∈ boundAll home.tree)
    (hconditions : ∀ x ∈ mentionsOfItems conditions, x.IsAllowed)
    (hvs : ∀ v ∈ vs, v.CallsOnly W.Plain) :
    S.Keeps W (selected S.setting call p target conditions vs) fun W' r =>
      ∀ v ∈ r.1, v.CallsOnly W'.Plain := by
  induction vs generalizing W with
  | nil => exact Keeps.pure nofun
  | cons v rest ih =>
    obtain ⟨hv, hrest⟩ := List.forall_mem_cons.mp hvs
    rw [selected]
    refine (keeps_meets hcall ho htarget hbound hconditions hv).attempt.bind fun W₁ r hW₁ _ => ?_
    cases r with
    | error f => exact Keeps.pure nofun
    | ok isMet =>
      have hrest : ∀ v ∈ rest, v.CallsOnly W₁.Plain := fun v hv =>
        (hrest v hv).mono (World.Plain.mono hW₁)
      refine (ih (World.getElem?_homes hW₁ ho) hrest).bind fun W₂ others hW₂ hothers => Keeps.pure ?_
      dsimp only
      split
      · exact List.forall_mem_cons.mpr ⟨hv.mono (World.Plain.mono (hW₁.trans hW₂)), hothers⟩
      · exact hothers

lemma keeps_evalAssignments (hcall : S.Serves call) {assignments : List (Target × Expr)}
    (ho : W.homes[p.run]? = some home)
    (hnames : ∀ n ∈ namesOfAll (assignments.map Prod.fst), ComponentClass.isTaken n = false)
    (hvalues : ∀ x ∈ assignments.flatMap fun a => a.2.mentions, x.IsAllowed)
    (hbound : ∀ n ∈ namesOfAll (assignments.map Prod.fst), n ∈ boundAll home.tree) :
    S.Keeps W (evalAssignments S.setting call p assignments) fun W' t => AllSuit W' p.run home t := by
  induction assignments generalizing W with
  | nil => exact Keeps.pure nofun
  | cons assignment rest ih =>
    obtain ⟨target, value⟩ := assignment
    rw [List.map_cons, namesOfAll, List.forall_mem_append] at hnames hbound
    rw [List.flatMap_cons, List.forall_mem_append] at hvalues
    rw [evalAssignments]
    refine (evaluates hcall value hvalues.1 W home ho).bind fun W₁ v hW₁ hv => ?_
    have ho₁ := World.getElem?_homes hW₁ ho
    refine Keeps.of_bind ((target.gives_bind hv).mono fun first hfirst => ?_)
    have hsuits : AllSuit W₁ p.run home first := .of_binds hfirst hnames.1 hbound.1
    exact (ih ho₁ hnames.2 hvalues.2 hbound.2).bind fun W₂ others hW₂ hothers =>
      Keeps.pure ((hsuits.mono hW₂).setAll hothers)

/-- Setting what a target gets from a plain value. -/
lemma keeps_assign_target {target : Target} {v : Value} (ho : W.homes[p.run]? = some home)
    (htarget : ∀ n ∈ target.names, ComponentClass.isTaken n = false)
    (hbound : ∀ n ∈ target.names, n ∈ boundAll home.tree) (hv : v.CallsOnly W.Plain) :
    S.Keeps W (do Action.assign p (← Action.of (target.bind v))) fun _ _ => True :=
  Keeps.of_bind ((target.gives_bind hv).mono fun _ ht => keeps_assign ho (.of_binds ht htarget hbound))

/-! ### Statements -/

/-- Executing a statement of a template keeps the rendering in order. -/
def Executes (S : Session language) (call : Caller) (st : Statement) : Prop :=
  ∀ W p home, W.homes[p.run]? = some home → (∀ n ∈ st.bound, n ∈ boundAll home.tree) →
    S.Keeps W (st.exec S.setting call p) fun _ _ => True

section

variable {target : Target} {condition : Expr} {body otherwise : List Statement}
  {others : List (Expr × List Statement)}

lemma keeps_execAll (h : ∀ st ∈ body, S.Executes call st) (ho : W.homes[p.run]? = some home)
    (hbound : ∀ n ∈ boundAll body, n ∈ boundAll home.tree) :
    S.Keeps W (execAll S.setting call p body) fun _ _ => True := by
  induction body generalizing W with
  | nil => exact Keeps.pure trivial
  | cons st rest ih =>
    obtain ⟨hst, hrest⟩ := List.forall_mem_cons.mp h
    rw [boundAll_cons, List.forall_mem_append] at hbound
    rw [execAll]
    refine (hst W p home ho hbound.1).bind fun W₁ _ hW₁ _ => ?_
    exact ih hrest (World.getElem?_homes hW₁ ho) hbound.2

lemma keeps_execCases
    (h : ∀ c ∈ others, S.Evaluates call p c.1 ∧ ∀ st ∈ c.2, S.Executes call st)
    (ho : W.homes[p.run]? = some home) (hbound : ∀ n ∈ boundCases others, n ∈ boundAll home.tree) :
    S.Keeps W (execCases S.setting call p others) fun _ _ => True := by
  induction others generalizing W with
  | nil => exact Keeps.pure trivial
  | cons c rest ih =>
    obtain ⟨condition, body⟩ := c
    obtain ⟨⟨hcondition, hbody⟩, hrest⟩ := List.forall_mem_cons.mp h
    rw [execCases]
    refine (hcondition W home ho).bind fun W₁ _ hW₁ _ => ?_
    have ho₁ := World.getElem?_homes hW₁ ho
    refine Keeps.of_bind (Gives.trivial fun holds => ?_)
    cases holds with
    | true =>
      exact (keeps_execAll hbody ho₁ fun n hn => hbound n (mem_boundCases_cons (.inl hn))).bind
        fun _ _ _ _ => Keeps.pure trivial
    | false => exact ih hrest ho₁ fun n hn => hbound n (mem_boundCases_cons (.inr hn))

lemma executes_setBlock (hcall : S.Serves call) {filters : List BlockFilter}
    (htarget : ∀ n ∈ target.names, ComponentClass.isTaken n = false)
    (hfilters : ∀ x ∈ filters.flatMap fun f => mentionsOfArguments f.arguments, x.IsAllowed)
    (hbody : ∀ st ∈ body, S.Executes call st) : S.Executes call (.setBlock target filters body) := by
  intro W p home ho hbound
  have hbound_body : ∀ n ∈ boundAll body, n ∈ boundAll home.tree := fun n hn =>
    hbound n (mem_bound_setBlock (.inr hn))
  have hbound_target : ∀ n ∈ target.names, n ∈ boundAll home.tree := fun n hn =>
    hbound n (mem_bound_setBlock (.inl hn))
  rw [Statement.exec]
  refine (keeps_enter_inner ho hbound_body).bind fun W₁ inner hW₁ ho₁ => ?_
  refine (keeps_execAll hbody ho₁ hbound_body).captured.bind fun W₂ t hW₂ _ => ?_
  have ho₂ := World.getElem?_homes hW₂ ho₁
  refine (keeps_applyFilters hcall hfilters ho₂ callsOnly_content).bind fun W₃ v hW₃ hv => ?_
  have ho₃ := World.getElem?_homes (hW₁.trans (hW₂.trans hW₃)) ho
  split
  · exact Keeps.of_bind (Gives.trivial fun _ => keeps_assign_target ho₃ htarget hbound_target .markup)
  · exact keeps_assign_target ho₃ htarget hbound_target hv

lemma executes_choice (hcondition : ∀ p, S.Evaluates call p condition)
    (hbody : ∀ st ∈ body, S.Executes call st)
    (hothers : ∀ p, ∀ c ∈ others, S.Evaluates call p c.1 ∧ ∀ st ∈ c.2, S.Executes call st)
    (hotherwise : ∀ st ∈ otherwise, S.Executes call st) :
    S.Executes call (.choice condition body others otherwise) := by
  intro W p home ho hbound
  rw [Statement.exec]
  refine (hcondition p W home ho).bind fun W₁ _ hW₁ _ => ?_
  have ho₁ := World.getElem?_homes hW₁ ho
  refine Keeps.of_bind (Gives.trivial fun holds => ?_)
  cases holds with
  | true => exact keeps_execAll hbody ho₁ fun n hn => hbound n (mem_bound_choice (.inl hn))
  | false =>
    refine (keeps_execCases (hothers p) ho₁
      fun n hn => hbound n (mem_bound_choice (.inr (.inl hn)))).bind fun W₂ isDone hW₂ _ => ?_
    cases isDone with
    | true => exact Keeps.pure trivial
    | false =>
      exact keeps_execAll hotherwise (World.getElem?_homes hW₂ ho₁)
        fun n hn => hbound n (mem_bound_choice (.inr (.inr hn)))

lemma executes_scope (hcall : S.Serves call) {assignments : List (Target × Expr)}
    (hnames : ∀ n ∈ namesOfAll (assignments.map Prod.fst), ComponentClass.isTaken n = false)
    (hvalues : ∀ x ∈ assignments.flatMap fun a => a.2.mentions, x.IsAllowed)
    (hbody : ∀ st ∈ body, S.Executes call st) : S.Executes call (.scope assignments body) := by
  intro W p home ho hbound
  have hbound_body : ∀ n ∈ boundAll body, n ∈ boundAll home.tree := fun n hn =>
    hbound n (mem_bound_scope (.inr hn))
  rw [Statement.exec]
  refine (keeps_evalAssignments hcall ho hnames hvalues fun n hn =>
    hbound n (mem_bound_scope (.inl hn))).bind fun W₁ given hW₁ hgiven => ?_
  have ho₁ := World.getElem?_homes hW₁ ho
  exact (keeps_enter_block ho₁ rfl hgiven hbound_body).bind fun W₂ inner _ hinner =>
    keeps_execAll hbody hinner hbound_body

/-- Defining a macro: a block that lowering has written, or a macro of the template with a name and with
parameters of its own. -/
lemma executes_define {m : Text} {parameters : List Parameter} {line : Nat}
    (h : ∀ x ∈ (Statement.define m parameters body line).mentions, x.IsAllowed) :
    S.Executes call (.define m parameters body line) := by
  intro W p home ho hbound
  simp only [Statement.mentions, List.forall_mem_append, List.forall_mem_cons] at h
  obtain ⟨⟨⟨hname, hparameters⟩, -⟩, hbody⟩ := h
  rw [Statement.exec]
  have hm : MacroInOrder W ⟨parameters, body, p⟩ home := {
    home_eq := ho
    parameters := by
      by_cases hblock : isBlock parameters = true
      · exact .inl hblock
      · rw [if_neg hblock] at hparameters
        exact .inr hparameters
    body := hbody
    bound_parameters := fun n hn => hbound n (mem_bound_define (.inr (.inl hn)))
    bound_specials := fun n hn => hbound n (mem_bound_define (.inr (.inr (.inl hn))))
    bound_body := fun n hn => hbound n (mem_bound_define (.inr (.inr (.inr hn)))) }
  refine (keeps_addMacro hm).bind fun W₁ number hW₁ hnumber => ?_
  refine keeps_define (World.getElem?_homes hW₁ ho) (hbound m (mem_bound_define (.inl rfl))) ?_
  cases hblock : isBlock parameters with
  | true =>
    rw [hblock] at hname
    refine ⟨fun hn => ?_, ?_, .block hnumber hblock rfl⟩
    · rw [isTaken_of_isBlockName hname] at hn
      cases hn
    · rintro rfl
      exact absurd hname (by decide)
  | false =>
    rw [hblock] at hname
    exact .of_plain (.callable ⟨_, hnumber, hblock⟩) hname

/-- One round of a loop. -/
lemma keeps_round {v : Value} {kept : List Value} {i : Nat}
    (htarget : ∀ n ∈ target.names, ComponentClass.isTaken n = false)
    (hbody : ∀ st ∈ body, S.Executes call st) (ho : W.homes[p.run]? = some home)
    (hloop : loopName ∈ boundAll home.tree) (hbound : ∀ n ∈ target.names, n ∈ boundAll home.tree)
    (hbound_body : ∀ n ∈ boundAll body, n ∈ boundAll home.tree)
    (hv : v.CallsOnly W.Plain) (hkept : ∀ v ∈ kept, v.CallsOnly W.Plain) :
    S.Keeps W (do
      let given := Table.set loopName (.loop i kept) (← Action.of (target.bind v))
      let inner ← Action.enter S.setting p .loop (Template.blockNames p.used given.keys body) given
      Action.beginRound inner
      execAll S.setting call inner body) fun _ _ => True := by
  refine Keeps.of_bind ((target.gives_bind hv).mono fun t ht => ?_)
  have hgiven : AllSuit W p.run home (Table.set loopName (.loop i kept) t) := by
    intro entry hentry
    rcases Table.mem_of_mem_set hentry with hentry | rfl
    · exact AllSuit.of_binds ht htarget hbound entry hentry
    · exact ⟨hloop, .of_plain (.loop hkept) (show ComponentClass.isTaken loopName = false by decide)⟩
  refine (keeps_enter_block ho rfl hgiven hbound_body).bind fun W₁ inner _ ho₁ => ?_
  refine (keeps_beginRound ho₁).bind fun W₂ _ hW₂ _ => ?_
  exact keeps_execAll hbody (World.getElem?_homes hW₂ ho₁) hbound_body

lemma executes_loop (hcall : S.Serves call) {items : Expr} {conditions : List Expr}
    (htarget : ∀ n ∈ target.names, ComponentClass.isTaken n = false)
    (hitems : ∀ p, S.Evaluates call p items)
    (hconditions : ∀ x ∈ mentionsOfItems conditions, x.IsAllowed)
    (hbody : ∀ st ∈ body, S.Executes call st) (hotherwise : ∀ st ∈ otherwise, S.Executes call st) :
    S.Executes call (.loop target items conditions body otherwise) := by
  intro W p home ho hbound
  have hbound_target : ∀ n ∈ target.names, n ∈ boundAll home.tree := fun n hn =>
    hbound n (mem_bound_loop (.inr (.inl hn)))
  rw [Statement.exec]
  refine (hitems p W home ho).bind fun W₁ v hW₁ hv => ?_
  have ho₁ := World.getElem?_homes hW₁ ho
  refine Keeps.of_bind ((Value.gives_items hv).mono fun all hall => ?_)
  extract_lets rounds
  have hrounds : ∀ W₂ (r : List Value × Option Failure), W₁ ≤ W₂ →
      (∀ v ∈ r.1, v.CallsOnly W₂.Plain) → S.Keeps W₂ (rounds r) fun _ _ => True := by
    rintro W₂ ⟨kept, failure⟩ hW₂ hr
    have ho₂ := World.getElem?_homes hW₂ ho₁
    refine Keeps.bind (Keeps.forM fun W₃ hW₃ item hitem => ?_) fun W₃ _ hW₃ _ => ?_
    · obtain ⟨v, i⟩ := item
      refine keeps_round htarget hbody (World.getElem?_homes hW₃ ho₂) (hbound _ (mem_bound_loop (.inl rfl)))
        hbound_target (fun n hn => hbound n (mem_bound_loop (.inr (.inr (.inl hn))))) ?_ ?_
      · exact (hr v (List.fst_mem_of_mem_zipIdx hitem)).mono (World.Plain.mono hW₃)
      · exact fun v hv => (hr v hv).mono (World.Plain.mono hW₃)
    · have ho₃ := World.getElem?_homes hW₃ ho₂
      have hbound_otherwise : ∀ n ∈ boundAll otherwise, n ∈ boundAll home.tree := fun n hn =>
        hbound n (mem_bound_loop (.inr (.inr (.inr hn))))
      split
      · exact Keeps.fail
      · split
        · exact (keeps_enter_inner ho₃ hbound_otherwise).bind fun W₄ inner _ ho₄ =>
            keeps_execAll hotherwise ho₄ hbound_otherwise
        · exact Keeps.pure trivial
  split
  · exact hrounds W₁ (all, none) le_rfl hall
  · exact (keeps_selected hcall ho₁ htarget hbound_target hconditions hall).bind hrounds

end

mutual

/-- A statement that does with names what it may keeps a rendering in order. -/
lemma executes (hcall : S.Serves call) :
    ∀ st : Statement, (∀ x ∈ st.mentions, x.IsAllowed) → S.Executes call st
  | .text t, _ => fun _ _ _ _ _ => by
    rw [Statement.exec]
    exact Keeps.put
  | .output e, h => fun W p home ho _ => by
    rw [Statement.exec]
    exact (evaluates hcall e h W home ho).bind fun _ _ _ _ => keeps_emit
  | .set target value, h => fun W p home ho hbound => by
    rw [Statement.mentions, List.forall_mem_append, Mention.allowed_binds] at h
    rw [Statement.exec]
    refine (evaluates hcall value h.2 W home ho).bind fun W₁ v hW₁ hv => ?_
    exact keeps_assign_target (World.getElem?_homes hW₁ ho) h.1
      (fun n hn => hbound n (mem_bound_set hn)) hv
  | .setBlock target filters body, h => by
    simp only [Statement.mentions, List.forall_mem_append, Mention.allowed_binds] at h
    obtain ⟨⟨htarget, hfilters⟩, hbody⟩ := h
    exact executes_setBlock hcall htarget hfilters (executes_all hcall body hbody)
  | .choice condition body others otherwise, h => by
    simp only [Statement.mentions, List.forall_mem_append] at h
    obtain ⟨⟨⟨hcondition, hbody⟩, hothers⟩, hotherwise⟩ := h
    exact executes_choice (fun _ => evaluates hcall condition hcondition) (executes_all hcall body hbody)
      (executes_cases hcall others hothers) (executes_all hcall otherwise hotherwise)
  | .loop target items conditions body otherwise, h => by
    simp only [Statement.mentions, List.forall_mem_append, List.forall_mem_cons,
      Mention.allowed_binds] at h
    obtain ⟨⟨⟨⟨⟨-, htarget⟩, hitems⟩, hbody⟩, hotherwise⟩, hconditions⟩ := h
    exact executes_loop hcall htarget (fun _ => evaluates hcall items hitems) hconditions
      (executes_all hcall body hbody) (executes_all hcall otherwise hotherwise)
  | .scope assignments body, h => by
    simp only [Statement.mentions, List.forall_mem_append, Mention.allowed_binds] at h
    obtain ⟨⟨hnames, hvalues⟩, hbody⟩ := h
    exact executes_scope hcall hnames hvalues (executes_all hcall body hbody)
  | .define .., h => executes_define h

lemma executes_all (hcall : S.Serves call) :
    ∀ body : List Statement, (∀ x ∈ mentionsAll body, x.IsAllowed) → ∀ st ∈ body, S.Executes call st
  | [], _ => nofun
  | st :: rest, h => by
    rw [mentionsAll, List.forall_mem_append] at h
    exact List.forall_mem_cons.mpr ⟨executes hcall st h.1, executes_all hcall rest h.2⟩

lemma executes_cases (hcall : S.Serves call) :
    ∀ others : List (Expr × List Statement), (∀ x ∈ mentionsOfCases others, x.IsAllowed) →
      ∀ p, ∀ c ∈ others, S.Evaluates call p c.1 ∧ ∀ st ∈ c.2, S.Executes call st
  | [], _ => nofun
  | (condition, body) :: rest, h => fun p => by
    simp only [mentionsOfCases, List.forall_mem_append] at h
    obtain ⟨⟨hcondition, hbody⟩, hrest⟩ := h
    exact List.forall_mem_cons.mpr ⟨⟨evaluates hcall condition hcondition, executes_all hcall body hbody⟩,
      executes_cases hcall rest hrest p⟩

end

end Session

end ComponentTags
