/-
# Renderings as a whole

What is asked of a rendering: the templates keep off reserved names, the functions for the rendering do not
replace those that lowering calls, and no value from outside gets hold of macros or of the function that
renders components (`Session.IsSound`).
-/
import ComponentTags.Proofs.Component.Declared
import ComponentTags.Proofs.Engine.Passed

namespace ComponentTags

open Template

variable {L : Language}

/-! ### Plain values -/

/-- A value that a template may do with what it likes: functions, and those macros that are its own. -/
def Callable.IsPlain (isOwn : Nat → Prop) : Callable → Prop
  | .function _ | .counting | .scopeMaker => True
  | .macroCall number _ => isOwn number
  | .renderer => False

lemma Callable.IsPlain.mono {isOwn isOwn' : Nat → Prop} (h : ∀ k, isOwn k → isOwn' k) (c : Callable)
    (hc : c.IsPlain isOwn) : c.IsPlain isOwn' := by
  cases c with
  | macroCall number name => exact h number hc
  | _ => exact hc

/-- A value that comes from outside of the templates: no macro can be called in it, nor the function that
renders components. -/
def Value.IsOutside (v : Value) : Prop := v.CallsOnly (Callable.IsPlain fun _ => False)

lemma Value.IsOutside.plain {v : Value} {isOwn : Nat → Prop} (h : v.IsOutside) :
    v.CallsOnly (Callable.IsPlain isOwn) :=
  h.mono (Callable.IsPlain.mono fun _ h => h.elim)

/-- A function makes nothing that can be called: its results have only functions and what its arguments
had. -/
def TemplateFunction.IsHonest (f : TemplateFunction) : Prop :=
  ∀ (isOwn : Nat → Prop) (calls : Nat) (arguments : List Value),
    (∀ v ∈ arguments, v.CallsOnly (Callable.IsPlain isOwn)) →
    Gives (Value.CallsOnly (Callable.IsPlain isOwn)) (f.run calls arguments)

namespace TemplateFunction

end TemplateFunction

/-- The values of a class come from outside. -/
def ComponentClass.IsOutside (c : ComponentClass) : Prop :=
  c.CallsOnly (Callable.IsPlain fun _ => False)

lemma ComponentClass.IsOutside.plain {c : ComponentClass} {isOwn : Nat → Prop} (h : c.IsOutside) :
    c.CallsOnly (Callable.IsPlain isOwn) :=
  ⟨fun m hm => Value.IsOutside.plain (h.members m hm),
    fun f hf v hv => Value.IsOutside.plain (h.default? f hf v hv),
    fun f hf v hv => Value.IsOutside.plain (h.factory f hf v hv)⟩

/-- The types of the registered components are those of classes. -/
def Engine.IsTyped (e : Engine L) : Prop :=
  ∀ n type, e.components.get? n = some type → ∃ c : ComponentClass, c.componentType = .ok type

/-- No field of a component has a name with a meaning of its own. -/
lemma ComponentType.isTaken_of_mem {c : ComponentClass} {t : ComponentType}
    (h : c.componentType = .ok t) {f : FieldSpec} (hf : f ∈ t.fields.values) :
    ComponentClass.isTaken f.name = false := by
  unfold ComponentClass.componentType at h
  split at h
  · cases h
  · dsimp only at h
    split at h
    · cases h
    · split at h
      · cases h
      · next hnone =>
        cases h
        obtain ⟨entry, hentry, rfl⟩ := List.mem_map.mp hf
        rcases Table.mem_of_mem_setAll hentry with hentry | hentry
        · cases hentry
        · obtain ⟨spec, hspec, rfl⟩ := List.mem_map.mp hentry
          exact Bool.eq_false_iff.mpr (List.find?_eq_none.mp hnone spec hspec)

/-- So none of them is read as the field of a component. -/
lemma ComponentType.get?_fieldValues_of_isTaken {c : ComponentClass} {t : ComponentType}
    (h : c.componentType = .ok t) {v : Value} {n : Text} (hn : ComponentClass.isTaken n = true) :
    (t.fieldValues v).get? n = none := by
  rw [Table.get?_eq_none_iff]
  intro hmem
  obtain ⟨entry, hentry, rfl⟩ := List.mem_map.mp hmem
  rcases Table.mem_of_mem_setAll hentry with hentry | hentry
  · cases hentry
  · obtain ⟨f, hf, rfl⟩ := List.mem_map.mp hentry
    rw [isTaken_of_mem h hf] at hn
    cases hn

lemma Engine.registration?_eq_some_iff {e : Engine L} {n : Text} {r : Registration L} :
    e.registration? n = some r ↔
      e.components.get? n = some r.type ∧ e.templates.get? n = some r.template := by
  obtain ⟨type, template⟩ := r
  unfold registration?
  cases e.components.get? n <;> cases e.templates.get? n <;> simp

lemma Engine.get?_registered {e : Engine L} {n : Text} {r : Registration L} (h : e.registration? n = some r) :
    e.registered.get? n = some r := by
  have hfound (names : List Text) (hn : n ∈ names) :
      Table.get? n (names.filterMap fun m => (e.registration? m).map fun r => (m, r)) = some r := by
    induction names with
    | nil => cases hn
    | cons m names ih =>
      rw [List.filterMap_cons]
      by_cases hm : m = n
      · subst hm
        rw [h]
        exact if_pos rfl
      · have hrest := ih ((List.mem_cons.mp hn).resolve_left (Ne.symm hm))
        cases e.registration? m with
        | none => exact hrest
        | some r' => exact (if_neg hm).trans hrest
  exact hfound _ (Table.mem_keys_iff.mpr ⟨_, (registration?_eq_some_iff.mp h).1⟩)

/-! ### Names that templates may use -/

/-- The reserved names that an expression may read: a context and the functions of the rendering say nothing
about other components, and the function for contexts only makes values. -/
def readable : List Text := [contextName, scopeFunction, functionsName]

/-- Whether an expression may read a name. -/
def isReadable (n : Text) : Bool := !isReserved n || readable.contains n

/-- Whether lowering may give a name to a block. -/
def isBlockName (n : Text) : Bool :=
  isReserved n && !([contextName, scopeFunction, functionsName, renderFunction].contains n)

/-- What templates may do with names: what lowering does with reserved names, and what they like with
others. -/
def Mention.IsAllowed : Mention → Prop
  | reads n => isReadable n = true
  | binds n | gives n | defines n false => ComponentClass.isTaken n = false
  | defines n true => isBlockName n = true
  | callsOut => True

instance : (m : Mention) → Decidable m.IsAllowed
  | .reads n => inferInstanceAs (Decidable (isReadable n = true))
  | .binds n | .gives n | .defines n false =>
    inferInstanceAs (Decidable (ComponentClass.isTaken n = false))
  | .defines n true => inferInstanceAs (Decidable (isBlockName n = true))
  | .callsOut => inferInstanceAs (Decidable True)

/-- A name that a template may bind: one without a meaning of its own, or one of those that lowering binds. -/
def IsBindable (n : Text) : Prop :=
  ComponentClass.isTaken n = false ∨ isBlockName n = true ∨ n = contextName

instance (n : Text) : Decidable (IsBindable n) := inferInstanceAs (Decidable (_ ∨ _))

/-- These names have a meaning of their own, which no template changes. -/
lemma not_isBindable {n : Text}
    (h : n ∈ [thisName, rootName, functionsName, renderFunction, scopeFunction]) : ¬IsBindable n := by
  simp only [List.mem_cons, List.not_mem_nil, or_false] at h
  rcases h with rfl | rfl | rfl | rfl | rfl <;> decide

lemma isTaken_of_isBlockName {n : Text} (h : isBlockName n = true) :
    ComponentClass.isTaken n = true := by
  rw [isBlockName, Bool.and_eq_true] at h
  simp [ComponentClass.isTaken, h.1]

/-- The names of blocks are not read. -/
lemma isReadable_of_isBlockName {n : Text} (h : isBlockName n = true) : isReadable n = false := by
  simp only [isBlockName, Bool.and_eq_true, Bool.not_eq_true', List.contains_eq_mem,
    decide_eq_false_iff_not, List.mem_cons, List.not_mem_nil, or_false, not_or] at h
  simp [isReadable, readable, h]

/-- What a template binds when it does what it may. -/
lemma Mention.IsAllowed.isBindable {m : Mention} {n : Text} (h : m.IsAllowed) (hn : n ∈ m.bound) :
    IsBindable n := by
  cases m with
  | binds | gives =>
    rw [List.mem_singleton.mp hn]
    exact .inl h
  | defines _ isBlock =>
    cases isBlock with
    | false =>
      rw [List.mem_singleton.mp hn]
      exact .inl h
    | true =>
      rcases List.mem_pair.mp hn with rfl | rfl
      · exact .inr (.inl h)
      · exact .inr (.inr rfl)
  | reads | callsOut => cases hn

/-! ### Sessions -/

/-- What a rendering is about: a component of an engine, perhaps with functions for this rendering. -/
structure Session (L : Language) where
  /-- The engine. -/
  engine : Engine L
  /-- The type and the template of the component. -/
  registration : Registration L
  /-- The component. -/
  component : Value
  /-- The functions for this rendering. -/
  functions : Option (Table Text TemplateFunction)

namespace Session

variable (S : Session L)

/-- The setting of all runs. -/
def setting : Setting := S.engine.setting

/-- The functions for this rendering as values. -/
def given : Option (Table Text Value) :=
  S.functions.map fun fs => Engine.numbered fs.keys S.engine.functions.length

/-- The functions for this rendering as one value. -/
def functionsValue : Value := ComponentTags.functionsValue S.given

/-- The store at the beginning. -/
def start : L.Store := S.engine.store (S.functions.getD [])

/-- The store at the end. -/
def final : L.Store :=
  (S.engine.rendering S.registration S.component S.functions S.start).2

/-- The variables that the template of a component runs with. -/
def variablesOf (r : Registration L) (v : Value) : Table Text Value :=
  templateVariables r.type v S.component S.functionsValue

/-- The run of the template of a component. -/
def runOf (r : Registration L) (v : Value) : Running L.Tree := ⟨r.template.tree, S.variablesOf r v⟩

/-- What a name stands for in a template that runs if no block binds it. -/
def resolved (home : Running L.Tree) (n : Text) : Option Value :=
  (home.given.get? n).or (S.setting.globals.get? n)

/-- The value of such a name in an expression. -/
def meaning (home : Running L.Tree) (n : Text) : Value :=
  (S.resolved home n).getD (S.setting.missing.name n)

/-- What is asked of a rendering.  The functions for it do not replace those that lowering calls, the
templates keep off reserved names, and no value from outside gets hold of macros or of the function that
renders components. -/
structure IsSound : Prop where
  lookUp_eq : S.engine.lookUp S.component.typeName = .ok S.registration
  typed : S.engine.IsTyped
  keepOff : ∀ n t, S.engine.templates.get? n = some t → ∀ m ∈ L.mentions t.tree, m.IsAllowed
  distinct : S.engine.functions.keys.Nodup
  not_mem_keys : ∀ fs ∈ S.functions, scopeFunction ∉ fs.keys
  component : S.component.IsOutside
  classes : ∀ n type, S.engine.components.get? n = some type → type.cls.IsOutside
  functions : ∀ f ∈ S.start.owned.functions.toList, f.1.IsHonest

end Session

/-! ### What names stand for -/

lemma Engine.exists_of_get?_numbered {names : List Text} {first : Nat} {n : Text} {v : Value}
    (h : (numbered names first).get? n = some v) : n ∈ names ∧ ∃ k, v = .callable (.function k) := by
  obtain ⟨entry, hentry, heq⟩ := List.mem_map.mp (Table.mem_of_get? h)
  cases heq
  exact ⟨List.fst_mem_of_mem_zipIdx hentry, _, rfl⟩

lemma functionsOf_functionsValue (given : Option (Table Text Value)) :
    functionsOf (functionsValue given) = given.getD [] := by
  cases given with
  | none => rfl
  | some fs =>
    simp [functionsValue, functionsOf, Value.ofLocals, List.filterMap_map, Value.asText?]

namespace Session

variable {S : Session L} {r : Registration L} {home : Running L.Tree} {n : Text} {v : Value}

lemma get?_given (h : (S.given.getD []).get? n = some v) :
    (∃ fs ∈ S.functions, n ∈ fs.keys) ∧ ∃ k, v = .callable (.function k) := by
  unfold given at h
  cases hfs : S.functions with
  | none =>
    rw [hfs] at h
    cases h
  | some fs =>
    rw [hfs] at h
    obtain ⟨hn, hv⟩ := Engine.exists_of_get?_numbered h
    exact ⟨⟨fs, rfl, hn⟩, hv⟩

lemma get?_templateVariables {root : Value} :
    (templateVariables r.type v root S.functionsValue).get? n =
      if n = functionsName then some S.functionsValue
      else if n = rootName then some root
      else if n = thisName then some v
      else ((r.type.fieldValues v).get? n).or ((S.given.getD []).get? n) := by
  have hnodup : (r.type.fieldValues v).keys.Nodup :=
    Table.nodup_keys_setAll List.nodup_nil
  rw [templateVariables, Table.get?_set, Table.get?_set, Table.get?_set,
    Table.get?_setAll hnodup, functionsValue, functionsOf_functionsValue]
  simp only [eq_comm]

lemma given_runOf : (S.runOf r v).given = S.variablesOf r v := rfl

/-- A reserved name other than that of the functions is no variable of a template, unless a function for the
rendering has it. -/
lemma get?_templateVariables_of_isReserved {root : Value} {c : ComponentClass}
    (hc : c.componentType = .ok r.type) (hn : isReserved n = true) (hfunctions : n ≠ functionsName) :
    (templateVariables r.type v root S.functionsValue).get? n = (S.given.getD []).get? n := by
  have htaken : ComponentClass.isTaken n = true := by simp [ComponentClass.isTaken, hn]
  have hroot : n ≠ rootName := by
    rintro rfl
    exact absurd hn (by decide)
  have hthis : n ≠ thisName := by
    rintro rfl
    exact absurd hn (by decide)
  rw [get?_templateVariables, if_neg hfunctions, if_neg hroot, if_neg hthis,
    ComponentType.get?_fieldValues_of_isTaken hc htaken, Option.none_or]

/-- So it stands for what every template knows. -/
lemma resolved_of_isReserved {c : ComponentClass} (hc : c.componentType = .ok r.type)
    (hn : isReserved n = true) (hfunctions : n ≠ functionsName) (hnot : ∀ fs ∈ S.functions, n ∉ fs.keys) :
    S.resolved (S.runOf r v) n = S.setting.globals.get? n := by
  have hnone : (S.variablesOf r v).get? n = none := by
    rw [variablesOf, get?_templateVariables_of_isReserved hc hn hfunctions,
      Option.eq_none_iff_forall_ne_some]
    intro v hv
    obtain ⟨fs, hfs, hmem⟩ := (get?_given hv).1
    exact hnot fs hfs hmem
  rw [resolved, given_runOf, hnone, Option.none_or]

lemma get?_globals_renderFunction : S.setting.globals.get? renderFunction = some (.callable .renderer) := by
  simp only [setting, Engine.setting, Table.get?_set]
  rfl

lemma get?_globals_scopeFunction : S.setting.globals.get? scopeFunction = some (.callable .scopeMaker) := by
  simp only [setting, Engine.setting, Table.get?_set]
  rfl

/-- The component that is rendered as a whole is registered. -/
lemma IsSound.registered (hS : S.IsSound) : ∃ n, S.engine.registration? n = some S.registration := by
  refine ⟨S.component.typeName, ?_⟩
  have hlookUp := hS.lookUp_eq
  unfold Engine.lookUp at hlookUp
  split at hlookUp
  · next r hr =>
    cases hlookUp
    exact hr
  · cases hlookUp

/-- A registered template does with names what it may. -/
lemma IsSound.allowed (hS : S.IsSound) (hr : ∃ m, S.engine.registration? m = some r) :
    ∀ m ∈ L.mentions r.template.tree, m.IsAllowed := by
  obtain ⟨m, hm⟩ := hr
  exact hS.keepOff m _ (Engine.registration?_eq_some_iff.mp hm).2

end Session

end ComponentTags
