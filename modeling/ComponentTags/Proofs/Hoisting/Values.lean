/-
# Values of contents

A path has the value that its attributes have, from what its variable means (`Path.value`).  Where a content stands
in a template, a variable means what the scene says (`Content.comesTo_opened`); where it has been closed, it means
what its context has captured (`Content.comesTo_closed`).  The context that a call for a component makes captures
what the variables mean where the call stands (`hasValue_freshContext`).
-/
import ComponentTags.Proofs.Engine.Ends
import ComponentTags.Proofs.Hoisting.Pages
import ComponentTags.Proofs.Template.Runs

namespace ComponentTags.Hoisting

open Template

variable {s : Setting} {call : Caller} {st st' : Store} {p : Place} {sc : Scene} {n : Text} {names : List Text}
  {meaning : Text → Value}

/-! ### Expressions that change nothing -/

/-- What a name means in a scene. -/
def meaningIn (s : Setting) (sc : Scene) (n : Text) : Value := (sc.value? s n).getD (s.missing.name n)

lemma eval_name (h : st.Shows p sc) : (Expr.name n).eval s call p st = (.ok (meaningIn s sc n), st) := by
  rw [Expr.eval]
  exact Action.bind_of_ok h.value?_eq _

lemma eval_member {owner : Expr} {r : Except Failure Value} (h : owner.eval s call p st = (r, st)) :
    (Expr.member owner n).eval s call p st = (r >>= fun v => Value.lookUpAttribute s.missing v n, st) := by
  rw [Expr.eval]
  cases r with
  | error f => exact Action.bind_of_error h _
  | ok v => exact Action.bind_of_ok h _

lemma eval_item {owner : Expr} {v : Value} (h : owner.eval s call p st = (.ok v, st)) :
    (Expr.item owner (.literal (.text n))).eval s call p st = (Value.lookUpItem s.missing v (.text n), st) := by
  rw [Expr.eval, Expr.eval_literal]
  exact Action.bind_of_ok h _

lemma eval_literal (l : Literal) : (Expr.literal l).eval s call p st = (.ok l.value, st) := by
  rw [Expr.eval_literal]
  rfl

/-! ### Arguments -/

/-- From a store on, an expression has a value. -/
def HasValue (s : Setting) (call : Caller) (p : Place) (st : Store) (e : Expr) (v : Value) : Prop :=
  ∀ st', st.GoesOn st' → st'.Gives (e.eval s call p) (.ok v)

lemma HasValue.name (h : st.Shows p sc) : HasValue s call p st (.name n) (meaningIn s sc n) :=
  fun _ hst => .of_eq (eval_name (h.goesOn hst))

lemma HasValue.literal (l : Literal) : HasValue s call p st (.literal l) l.value :=
  fun _ _ => .of_eq (eval_literal l)

lemma HasValue.goesOn {e : Expr} {v : Value} (h : HasValue s call p st e v) (hst : st.GoesOn st') :
    HasValue s call p st' e v :=
  fun st'' hst' => h st'' (hst.trans hst')

/-- The arguments of a call that are passed by their places. -/
lemma gives_evalArguments_placed {es : List Expr} {vs : List Value}
    (h : List.Forall₂ (HasValue s call p st) es vs) (known : Arguments) :
    st.Gives (evalArguments s call p known (es.map fun e => (.placed, e)))
      (.ok { known with placed := known.placed ++ vs }) := by
  induction es generalizing known vs st with
  | nil =>
    cases h
    rw [List.append_nil, List.map_nil, evalArguments]
    exact .of_eq rfl
  | cons e es ih =>
    cases h with
    | @cons _ v _ vs he hrest =>
      obtain ⟨st₁, heval, hst₁, hout⟩ := he st (.refl st)
      rw [List.map_cons, evalArguments]
      refine .of_bind heval hst₁ (hout.trans (List.append_nil _)) ?_
      have hnext := ih (hrest.imp fun _ _ h => h.goesOn hst₁) { known with placed := known.placed ++ [v] }
      rw [List.append_assoc] at hnext
      exact .of_bind rfl (.refl st₁) rfl hnext

/-! ### Paths -/

/-- The value of attributes, one behind the other. -/
def fieldsValue (m : Value.Missing) (v : Value) (fields : List Identifier) : Except Failure Value :=
  fields.foldlM (fun v f => Value.lookUpAttribute m v f.text) v

/-- The value of a path, from what names mean. -/
def Path.value (m : Value.Missing) (meaning : Text → Value) (x : Path) : Except Failure Value :=
  fieldsValue m (meaning x.head.text) x.fields

lemma eval_members {e : Printed} {r : Except Failure Value} (fields : List Identifier)
    (h : e.expr.eval s call p st = (r, st)) :
    (members e fields).expr.eval s call p st = (r >>= fun v => fieldsValue s.missing v fields, st) := by
  induction fields generalizing e r with
  | nil => cases r <;> exact h
  | cons f fields ih =>
    have hrest := ih (e := e.member f.text f.isIdentifier) (eval_member (n := f.text) h)
    rw [bind_assoc] at hrest
    exact hrest

lemma Path.eval_opened (x : Path) (h : st.Shows p sc) :
    x.opened.expr.eval s call p st = (x.value s.missing (meaningIn s sc), st) :=
  eval_members (e := .name x.head.text x.head.isName) x.fields (eval_name h)

/-! ### Captured variables -/

/-- The context that captures what some names mean. -/
def capture (meaning : Text → Value) (names : List Text) : Value :=
  .context (meaning thisName) (meaning rootName) (names.map fun n => (n, meaning n))

lemma entryOf?_capture (h : n ∈ names) :
    Value.entryOf? (names.map fun n => (.text n, meaning n)) (.text n) = some (meaning n) := by
  induction names with
  | nil => cases h
  | cons m names ih =>
    have hequal : Value.equal (.text m) (.text n) = (m == n) := rfl
    by_cases hm : m = n
    · subst hm
      simp [Value.entryOf?, hequal]
    · have hrest := ih ((List.mem_cons.mp h).resolve_left (Ne.symm hm))
      rw [← hrest]
      simp [Value.entryOf?, hequal, hm]

/-- A look-up gives what a captured variable means. -/
lemma Variable.eval_lookup (x : Variable) (h : st.Shows p sc) (hcontext : meaningIn s sc contextName = capture meaning names)
    (hx : isCaptured x.text = true → x.text ∈ names) :
    x.lookup.expr.eval s call p st = (.ok (meaning x.text), st) := by
  have hname : (Expr.name contextName).eval s call p st = (.ok (meaningIn s sc contextName), st) := eval_name h
  rw [hcontext] at hname
  unfold Variable.lookup
  split
  · next hthis =>
    rw [hthis]
    exact eval_member hname
  split
  · next hroot =>
    rw [hroot]
    exact eval_member hname
  · next hthis hroot =>
    have hmem : x.text ∈ names := hx (by simp [isCaptured, hthis, hroot])
    have hlocals : (Expr.member (.name contextName) "locals").eval s call p st =
        (.ok (.dict (names.map fun n => (.text n, meaning n))), st) := by
      have hvalue : Value.ofLocals (names.map fun n => (n, meaning n)) = .dict (names.map fun n => (.text n, meaning n)) := by
        rw [Value.ofLocals, List.map_map]
        rfl
      rw [← hvalue]
      exact eval_member hname
    refine (eval_item hlocals).trans ?_
    have hitem : Value.item? (.dict (names.map fun n => (.text n, meaning n))) (.text x.text) =
        .ok (some (meaning x.text)) := congrArg Except.ok (entryOf?_capture hmem)
    rw [Value.lookUpItem, hitem]
    rfl

lemma Path.eval_closed (x : Path) (h : st.Shows p sc) (hcontext : meaningIn s sc contextName = capture meaning names)
    (hx : ∀ n ∈ x.captured, n ∈ names) :
    x.closed.expr.eval s call p st = (x.value s.missing meaning, st) := by
  refine eval_members x.fields (x.head.eval_lookup h hcontext fun hhead => hx _ ?_)
  rw [captured, if_pos hhead]
  exact .head _

/-! ### What contents come to -/

/-- What a part puts out, from what names mean. -/
def Part.outcome (s : Setting) (meaning : Text → Value) : Part → Except Failure Text
  | .text t _ => .ok t
  | .path x => x.value s.missing meaning >>= s.shown

namespace Content

/-- What the parts of a content put out. -/
def outcomes (c : Content) (s : Setting) (meaning : Text → Value) : List (Except Failure Text) :=
  c.map (Part.outcome s meaning)

/-- Where a content stands, its variables mean what the scene says. -/
theorem comesTo_opened (c : Content) (h : st.Shows p sc) :
    List.Forall₂ (Chunk.ComesTo s call p st) c.opened (c.outcomes s (meaningIn s sc)) := by
  rw [opened, outcomes, List.forall₂_map_left_iff, List.forall₂_map_right_iff, List.forall₂_same]
  intro part _
  cases part with
  | text t plain => rfl
  | path x => exact ⟨_, fun st' hst' => .of_eq (x.eval_opened (h.goesOn hst')), rfl⟩

/-- Once a content is closed, its variables mean what its context has captured. -/
theorem comesTo_closed (c : Content) (h : st.Shows p sc)
    (hcontext : meaningIn s sc contextName = capture meaning c.names) :
    List.Forall₂ (Chunk.ComesTo s call p st) c.closed (c.outcomes s meaning) := by
  rw [closed, outcomes, List.forall₂_map_left_iff, List.forall₂_map_right_iff, List.forall₂_same]
  intro part hpart
  cases part with
  | text t plain => rfl
  | path x =>
    refine ⟨_, fun st' hst' => .of_eq (x.eval_closed (h.goesOn hst') hcontext fun n hn => ?_), rfl⟩
    exact List.mem_eraseDups.mpr (List.mem_flatMap.mpr ⟨_, hpart, hn⟩)

end Content

/-! ### Contexts -/

/-- Entries with different keys make up a dictionary. -/
lemma dictOf_capture (h : names.Nodup) :
    dictOf (names.map fun n => (.text n, meaning n)) = .ok (.dict (names.map fun n => (.text n, meaning n))) := by
  have hset (done rest : List Text) (h : (done ++ rest).Nodup) :
      (rest.map fun n => (Value.text n, meaning n)).foldl (fun es entry => setEntry es entry.1 entry.2)
        (done.map fun n => (.text n, meaning n)) = (done ++ rest).map fun n => (.text n, meaning n) := by
    induction rest generalizing done with
    | nil => rw [List.append_nil]; rfl
    | cons n rest ih =>
      have hnew : ¬(done.map fun n => (Value.text n, meaning n)).any (fun entry => Value.equal entry.1 (.text n)) := by
        rw [List.any_map, List.any_eq_true]
        rintro ⟨m, hm, heq⟩
        obtain rfl : m = n := by simpa [Value.equal, Value.equalWithin] using heq
        exact (List.nodup_append.mp h).2.2 m hm m (.head _) rfl
      have hrest := ih (done ++ [n]) (by rwa [List.append_assoc])
      rw [List.append_assoc, List.map_append] at hrest
      have hentry : setEntry (done.map fun n => (.text n, meaning n)) (.text n) (meaning n) =
          (done.map fun n => (.text n, meaning n)) ++ [(.text n, meaning n)] := if_neg hnew
      rw [List.map_cons, List.foldl_cons]
      dsimp only
      rw [hentry]
      exact hrest
  have hkeys (test : Value × Value → Bool) (htest : ∀ n, test (.text n, meaning n) = false) :
      (names.map fun n => (Value.text n, meaning n)).find? test = none := by
    rw [List.find?_map, Option.map_eq_none_iff, List.find?_eq_none]
    exact fun n _ => by rw [Function.comp_apply, htest]; exact Bool.false_ne_true
  rw [dictOf, hkeys]
  · exact congrArg (fun es => Except.ok (Value.dict es)) (hset [] names h)
  · exact fun _ => rfl

lemma attributesOf_capture :
    attributesOf (.dict (names.map fun n => (.text n, meaning n))) = .ok (names.map fun n => (n, meaning n)) := by
  rw [attributesOf, List.filterMap_map]
  exact congrArg Except.ok (congrFun List.filterMap_eq_map' names)

lemma evalEntries_capture (h : st.Shows p sc) (names : List Text) :
    evalEntries s call p (names.map fun n => (.literal (.text n), .name n)) st =
      (.ok (names.map fun n => (.text n, meaningIn s sc n)), st) := by
  induction names with
  | nil => rw [List.map_nil, evalEntries]; rfl
  | cons n names ih =>
    rw [List.map_cons, evalEntries, Expr.eval_literal]
    refine (Action.bind_of_ok rfl _).trans ((Action.bind_of_ok (eval_name h) _).trans ?_)
    exact Action.bind_of_ok ih _

/-- The context that is made where a call for a component stands captures what the variables mean there. -/
theorem hasValue_freshContext (components : Components language) (fuel : Nat) (h : st.Shows p sc)
    (hscope : meaningIn s sc scopeFunction = .callable .scopeMaker)
    (hnames : ∀ n ∈ names, Printed.IsName n) (hnodup : names.Nodup) :
    HasValue s (callWithin components s (fuel + 1)) p st (freshContext names hnames).expr
      (capture (meaningIn s sc) names) := by
  intro st₁ hst₁
  have hshows := h.goesOn hst₁
  have hdict : HasValue s (callWithin components s (fuel + 1)) p st₁ (captures names hnames).expr
      (.dict (names.map fun n => (.text n, meaningIn s sc n))) := fun st₂ hst₂ => .of_eq (by
    rw [expr_captures, Expr.eval, Action.bind_of_ok (evalEntries_capture (hshows.goesOn hst₂) names),
      dictOf_capture hnodup]
    rfl)
  have harguments := gives_evalArguments_placed
    (.cons (.name hshows (n := thisName)) (.cons (.name hshows (n := rootName)) (.cons hdict .nil))) {}
  have hname : (Expr.name scopeFunction).eval s (callWithin components s (fuel + 1)) p st₁ =
      (.ok (meaningIn s sc scopeFunction), st₁) := eval_name hshows
  rw [hscope] at hname
  have hmade : makeContext [meaningIn s sc thisName, meaningIn s sc rootName,
      .dict (names.map fun n => (.text n, meaningIn s sc n))] = .ok (capture (meaningIn s sc) names) := by
    rw [makeContext, attributesOf_capture]
    rfl
  show st₁.Gives ((Expr.call (.name scopeFunction) (([.name thisName, .name rootName,
    (captures names hnames).expr] : List Expr).map fun e => (.placed, e))).eval s _ p) _
  rw [Expr.eval]
  refine .of_bind hname (.refl st₁) rfl ?_
  obtain ⟨st₂, heval, hst₂, hout⟩ := harguments
  refine .of_bind heval hst₂ (hout.trans (List.append_nil _)) ?_
  have hanswer : Store.Gives st₂ (answer (L := language) p (.callable .scopeMaker) _ fun _ vs =>
      Action.of (makeContext vs)) (.ok (capture (meaningIn s sc) names)) :=
    gives_answer fun _ st₃ _ => .of_eq (congrArg (·, st₃) hmade)
  exact hanswer

end ComponentTags.Hoisting
