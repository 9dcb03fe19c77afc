/-
# What templates leave alone

Templates that run change what belongs to the engine only by calls.  This holds for every expression and
every statement, whatever it is: it is shown for the actions on blocks and macros, and is kept when actions
are put together.
-/
import ComponentTags.Proofs.Engine.Journal
import ComponentTags.Proofs.Engine.Upkeep
import ComponentTags.Template.Call

namespace ComponentTags

open Template

/-! ### Changes of what belongs to the engine -/

/-- What is ordered by a relation. -/
def Ordered {α : Type} (_ : α → α → Prop) : Type := α

instance {α : Type} {R : α → α → Prop} [IsPreorder α R] : Preorder (Ordered R) where
  le := R
  le_refl := refl_of R
  le_trans _ _ _ := trans_of R

namespace Host.Action.Changes

variable {Tree Memory α β : Type} {R : Host.Owned Tree → Host.Owned Tree → Prop} [IsPreorder _ R]
  {a : Host.Action Tree Memory α} {k : α → Host.Action Tree Memory β}

/-- A store has what belongs to the engine. -/
def Owns (R : Host.Owned Tree → Host.Owned Tree → Prop) (o : Ordered R) (st : Host.Store Tree Memory) : Prop :=
  st.owned = o

instance : Unwritten (Owns R : Ordered R → Host.Store Tree Memory → Prop) := ⟨fun h => h⟩

lemma iff_keeps : Changes R a ↔ ∀ o : Ordered R, Keeps (Owns R) o a fun _ _ => True :=
  ⟨fun h o st hst => ⟨(a st).2.owned, hst ▸ h st, rfl, fun _ _ => trivial⟩, fun h st => by
    obtain ⟨o, hle, howned, -⟩ := h st.owned st rfl
    exact howned ▸ hle⟩

lemma of_same (h : ∀ st, (a st).2.owned = st.owned) : Changes R a := fun st => by
  rw [h]
  exact refl_of R st.owned

lemma pure {v : α} : Changes R (pure v : Host.Action Tree Memory α) := of_same fun _ => rfl

lemma of {r : Except Failure α} : Changes R (Action.of r : Host.Action Tree Memory α) :=
  of_same fun _ => rfl

lemma fail {f : Failure} : Changes R (Action.fail f : Host.Action Tree Memory α) := of_same fun _ => rfl

lemma get : Changes R (get : Host.Action Tree Memory _) := of_same fun _ => rfl

lemma put {t : Text} : Changes R (Action.put t : Host.Action Tree Memory Unit) := of_same fun _ => rfl

lemma bind (h : Changes R a) (hk : ∀ v, Changes R (k v)) : Changes R (a >>= k) :=
  iff_keeps.mpr fun o => (iff_keeps.mp h o).bind fun o' v _ _ => iff_keeps.mp (hk v) o'

lemma captured {a : Host.Action Tree Memory Unit} (h : Changes R a) : Changes R (Action.captured a) :=
  iff_keeps.mpr fun o => (iff_keeps.mp h o).captured

lemma attempt (h : Changes R a) : Changes R (Action.attempt a) :=
  iff_keeps.mpr fun o => (iff_keeps.mp h o).attempt.any

lemma unnamed {arguments : Arguments} {act : List Value → Host.Action Tree Memory α}
    (h : ∀ vs, Changes R (act vs)) : Changes R (Action.unnamed arguments act) :=
  iff_keeps.mpr fun o => Keeps.unnamed fun _ => iff_keeps.mp (h _) o

lemma mapM {f : α → Host.Action Tree Memory β} {xs : List α} (h : ∀ x, Changes R (f x)) :
    Changes R (xs.mapM f) :=
  iff_keeps.mpr fun _ => (Keeps.mapM (T := fun _ _ => True) (fun _ _ _ _ _ => trivial)
    fun o' _ x _ => iff_keeps.mp (h x) o').any

lemma forM {f : α → Host.Action Tree Memory Unit} {xs : List α} (h : ∀ x, Changes R (f x)) :
    Changes R (xs.forM f) :=
  iff_keeps.mpr fun _ => Keeps.forM fun o' _ x _ => iff_keeps.mp (h x) o'

lemma allM {f : α → Host.Action Tree Memory Bool} {xs : List α} (h : ∀ x, Changes R (f x)) :
    Changes R (xs.allM f) :=
  iff_keeps.mpr fun _ => Keeps.allM fun o' _ x _ => iff_keeps.mp (h x) o'

end Host.Action.Changes

namespace Template

variable {R : Host.Owned (List Statement) → Host.Owned (List Statement) → Prop} [IsPreorder _ R]
  {s : Setting} {call : Caller} {p : Place}

open Host.Action (Changes)

/-! ### Blocks and macros -/

namespace Action

lemma changes_value? {n : Text} : Changes R (value? s p n) := .of_same fun _ => rfl

lemma changes_enter {kind : BlockKind} {names : Names} {given : Table Text Value} :
    Changes R (enter s p kind names given) := by
  refine .bind (.mapM fun (n, fromOutside) => ?_) fun cells => .bind .get fun _ =>
    .bind (.of_same fun _ => rfl) fun _ => .pure
  dsimp only
  split
  · exact .pure
  · cases fromOutside with
    | false => exact .bind .pure fun _ => .pure
    | true => exact .bind changes_value? fun _ => .pure

lemma changes_define {n : Text} {v : Value} : Changes R (define p n v) := by
  unfold define
  split
  · exact .pure
  · exact .of_same fun _ => rfl

lemma changes_assign {values : Table Text Value} : Changes R (assign p values) := by
  refine .bind (.forM fun _ => changes_define) fun _ => ?_
  split
  · exact .of_same fun _ => rfl
  · exact .pure

end Action

/-! ### Expressions -/

mutual

lemma changes_eval (hcall : ∀ p v a, Changes R (call p v a)) :
    ∀ e : Expr, Changes R (e.eval s call p)
  | .literal l => by
    rw [Expr.eval_literal]
    exact .pure
  | .name n => by
    rw [Expr.eval]
    exact .bind Action.changes_value? fun _ => .pure
  | .list items | .tuple items => by
    rw [Expr.eval]
    exact .bind (changes_evalAll hcall items) fun _ => .pure
  | .concat items => by
    rw [Expr.eval]
    exact .bind (changes_evalAll hcall items) fun _ => .of
  | .dict entries => by
    rw [Expr.eval]
    exact .bind (changes_evalEntries hcall entries) fun _ => .of
  | .member owner _ => by
    rw [Expr.eval]
    exact .bind (changes_eval hcall owner) fun _ => .of
  | .item owner key => by
    rw [Expr.eval]
    exact .bind (changes_eval hcall owner) fun _ => .bind (changes_eval hcall key) fun _ => .of
  | .slice owner start stop step => by
    rw [Expr.eval]
    exact .bind (changes_eval hcall owner) fun _ => .bind (changes_eval hcall start) fun _ =>
      .bind (changes_eval hcall stop) fun _ => .bind (changes_eval hcall step) fun _ => .of
  | .call callee arguments => by
    rw [Expr.eval]
    exact .bind (changes_eval hcall callee) fun f =>
      .bind (changes_evalArguments hcall arguments) fun a => hcall p f a
  | .filter subject _ arguments _ => by
    rw [Expr.eval]
    exact .bind (changes_eval hcall subject) fun _ =>
      .bind (changes_evalArguments hcall arguments) fun _ => .of
  | .test subject _ arguments _ => by
    rw [Expr.eval]
    exact .bind (changes_eval hcall subject) fun _ =>
      .bind (changes_evalArguments hcall arguments) fun _ => .bind .of fun _ => .pure
  | .signed _ operand => by
    rw [Expr.eval]
    exact .bind (changes_eval hcall operand) fun _ => .of
  | .negation operand => by
    rw [Expr.eval]
    exact .bind (changes_eval hcall operand) fun _ => .bind .of fun _ => .pure
  | .binary _ left right => by
    rw [Expr.eval]
    exact .bind (changes_eval hcall left) fun _ => .bind (changes_eval hcall right) fun _ => .of
  | .both left right => by
    rw [Expr.eval]
    refine .bind (changes_eval hcall left) fun _ => .bind .of fun _ => ?_
    split
    exacts [changes_eval hcall right, .pure]
  | .either left right => by
    rw [Expr.eval]
    refine .bind (changes_eval hcall left) fun _ => .bind .of fun _ => ?_
    split
    exacts [.pure, changes_eval hcall right]
  | .compare first others => by
    rw [Expr.eval]
    exact .bind (changes_eval hcall first) fun _ => changes_evalComparisons hcall others
  | .choice condition yes no => by
    rw [Expr.eval]
    refine .bind (changes_eval hcall condition) fun _ => .bind .of fun _ => ?_
    split
    exacts [changes_eval hcall yes, changes_eval hcall no]
  | .noAlternative line => by
    rw [Expr.eval]
    exact .pure

lemma changes_evalAll (hcall : ∀ p v a, Changes R (call p v a)) :
    ∀ es : List Expr, Changes R (evalAll s call p es)
  | [] => .pure
  | e :: rest => by
    rw [evalAll]
    exact .bind (changes_eval hcall e) fun _ => .bind (changes_evalAll hcall rest) fun _ => .pure

lemma changes_evalEntries (hcall : ∀ p v a, Changes R (call p v a)) :
    ∀ entries : List (Expr × Expr), Changes R (evalEntries s call p entries)
  | [] => .pure
  | (k, e) :: rest => by
    rw [evalEntries]
    exact .bind (changes_eval hcall k) fun _ => .bind (changes_eval hcall e) fun _ =>
      .bind (changes_evalEntries hcall rest) fun _ => .pure

lemma changes_evalArguments (hcall : ∀ p v a, Changes R (call p v a)) {known : Arguments} :
    ∀ arguments : List (Passing × Expr), Changes R (evalArguments s call p known arguments)
  | [] => .pure
  | (_, e) :: rest => by
    rw [evalArguments]
    exact .bind (changes_eval hcall e) fun _ => .bind .of fun _ => changes_evalArguments hcall rest

lemma changes_evalComparisons (hcall : ∀ p v a, Changes R (call p v a)) {left : Value} :
    ∀ others : List (Comparison × Expr), Changes R (evalComparisons s call p left others)
  | [] => .pure
  | (_, e) :: rest => by
    rw [evalComparisons]
    refine .bind (changes_eval hcall e) fun _ => .bind .of fun _ => ?_
    split
    exacts [changes_evalComparisons hcall rest, .pure]

end

/-! ### Statements -/

lemma changes_emit {v : Value} : Changes R (emit s v) := .bind .of fun _ => .put

lemma changes_applyFilters (hcall : ∀ p v a, Changes R (call p v a)) {filters : List BlockFilter}
    {content : Value} : Changes R (applyFilters s call p content filters) := by
  induction filters generalizing content with
  | nil => exact .pure
  | cons f rest ih =>
    rw [applyFilters]
    exact .bind (changes_evalArguments hcall _) fun _ => .bind .of fun _ => ih

lemma changes_meets (hcall : ∀ p v a, Changes R (call p v a)) {target : Target} {conditions : List Expr}
    {v : Value} : Changes R (meets s call p target conditions v) :=
  .bind .of fun _ => .bind Action.changes_enter fun _ => .allM fun e =>
    .bind (changes_eval hcall e) fun _ => .of

lemma changes_selected (hcall : ∀ p v a, Changes R (call p v a)) {target : Target}
    {conditions : List Expr} {vs : List Value} : Changes R (selected s call p target conditions vs) := by
  induction vs with
  | nil => exact .pure
  | cons v rest ih =>
    rw [selected]
    refine .bind (changes_meets hcall).attempt fun r => ?_
    cases r with
    | error f => exact .pure
    | ok isMet => exact .bind ih fun _ => .pure

lemma changes_evalAssignments (hcall : ∀ p v a, Changes R (call p v a))
    {assignments : List (Target × Expr)} : Changes R (evalAssignments s call p assignments) := by
  induction assignments with
  | nil => exact .pure
  | cons assignment rest ih =>
    rw [evalAssignments]
    exact .bind (changes_eval hcall _) fun _ => .bind .of fun _ => .bind ih fun _ => .pure

mutual

lemma changes_exec (hcall : ∀ p v a, Changes R (call p v a)) :
    ∀ (st : Statement) {p : Place}, Changes R (st.exec s call p)
  | .text t, _ => by
    rw [Statement.exec]
    exact .put
  | .output e, _ => by
    rw [Statement.exec]
    exact .bind (changes_eval hcall e) fun _ => changes_emit
  | .set target value, _ => by
    rw [Statement.exec]
    exact .bind (changes_eval hcall value) fun _ => .bind .of fun _ => Action.changes_assign
  | .setBlock target filters body, _ => by
    rw [Statement.exec]
    refine .bind Action.changes_enter fun _ => .bind (changes_execAll hcall body).captured fun _ =>
      .bind (changes_applyFilters hcall) fun _ => ?_
    split
    · exact .bind .of fun _ => .bind .pure fun _ => .bind .of fun _ => Action.changes_assign
    · exact .bind .pure fun _ => .bind .of fun _ => Action.changes_assign
  | .choice condition body others otherwise, _ => by
    rw [Statement.exec]
    refine .bind (changes_eval hcall condition) fun _ => .bind .of fun holds => ?_
    cases holds with
    | true => exact changes_execAll hcall body
    | false =>
      refine .bind (changes_execCases hcall others) fun isDone => ?_
      cases isDone with
      | true => exact .pure
      | false => exact changes_execAll hcall otherwise
  | .loop target items conditions body otherwise, _ => by
    rw [Statement.exec]
    refine .bind (changes_eval hcall items) fun _ => .bind .of fun all => ?_
    extract_lets rounds
    have hrounds : ∀ r, Changes R (rounds r) := by
      rintro ⟨kept, failure⟩
      refine .bind (.forM fun _ => .bind .of fun _ => .bind Action.changes_enter fun _ =>
        .bind (.of_same fun _ => rfl) fun _ => changes_execAll hcall body) fun _ => ?_
      split
      · exact .fail
      · split
        · exact .bind Action.changes_enter fun _ => changes_execAll hcall otherwise
        · exact .pure
    split
    · exact hrounds (all, none)
    · exact .bind (changes_selected hcall) hrounds
  | .scope assignments body, _ => by
    rw [Statement.exec]
    exact .bind (changes_evalAssignments hcall) fun _ => .bind Action.changes_enter fun _ =>
      changes_execAll hcall body
  | .define _ _ _ _, _ => by
    rw [Statement.exec]
    exact .bind (.of_same fun _ => rfl) fun _ => Action.changes_define

lemma changes_execAll (hcall : ∀ p v a, Changes R (call p v a)) :
    ∀ (body : List Statement) {p : Place}, Changes R (execAll s call p body)
  | [], _ => .pure
  | st :: rest, _ => by
    rw [execAll]
    exact .bind (changes_exec hcall st) fun _ => changes_execAll hcall rest

lemma changes_execCases (hcall : ∀ p v a, Changes R (call p v a)) :
    ∀ (others : List (Expr × List Statement)) {p : Place}, Changes R (execCases s call p others)
  | [], _ => .pure
  | (condition, body) :: rest, _ => by
    rw [execCases]
    refine .bind (changes_eval hcall condition) fun _ => .bind .of fun holds => ?_
    cases holds with
    | true => exact .bind (changes_execAll hcall body) fun _ => .pure
    | false => exact changes_execCases hcall rest

end

/-! ### Templates and macros -/

end Template

end ComponentTags
