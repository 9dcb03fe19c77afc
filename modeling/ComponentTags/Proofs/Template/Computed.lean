/-
# What templates can call

What a template computes from values has only what could be called in them already: this holds for parts of
expressions, for filters and for the operations of values.  So the functions and macros that a template can
get at by computing are those it was given.
-/
import ComponentTags.Proofs.Value.Callables
import ComponentTags.Template.Call

namespace ComponentTags

namespace Template

open Value

section

variable {P : Callable → Prop} {s : Setting} {v : Value} {vs : List Value}
  {es : List (Value × Value)} {a : Arguments} {n what : Text}

/-! ### Expressions -/

lemma callsOnly_value {l : Literal} : l.value.CallsOnly P := by
  cases l <;> simp [Literal.value]

lemma gives_joinValues {areConstants : Bool} : Gives (CallsOnly P) (joinValues s areConstants vs) := by
  unfold joinValues
  split <;> exact Gives.after fun _ => by simp

lemma gives_slice {start stop step : Value} (h : v.CallsOnly P) :
    Gives (CallsOnly P) (slice v start stop step) := by
  unfold slice
  extract_lets cut
  have hcut : ∀ vs : List Value, (∀ v ∈ vs, v.CallsOnly P) →
      Gives (fun vs => ∀ v ∈ vs, v.CallsOnly P) (cut vs) := by
    intro vs hvs
    refine Gives.after fun stride => ?_
    dsimp only
    split
    · exact Gives.throw_bind
    · refine Gives.after fun first => ?_
      refine Gives.after fun last => ?_
      exact Gives.pure_iff.mpr fun v hv => hvs v (mem_of_mem_sliced hv)
  cases v with
  | text t | markup t | bytes data =>
    exact Gives.after fun _ => by simp
  | list vs => exact (hcut vs (callsOnly_list.mp h)).bind fun vs hvs => by simpa using hvs
  | tuple vs => exact (hcut vs (callsOnly_tuple.mp h)).bind fun vs hvs => by simpa using hvs
  | _ => exact Gives.throw

lemma entriesCallOnly_setEntry {key : Value} (h : EntriesCallOnly P es) (hkey : key.CallsOnly P)
    (hv : v.CallsOnly P) : EntriesCallOnly P (setEntry es key v) := by
  unfold setEntry
  split
  · intro e he
    obtain ⟨old, hold, rfl⟩ := List.mem_map.mp he
    dsimp only
    split
    · exact ⟨(h old hold).1, hv⟩
    · exact h old hold
  · exact List.forall_mem_append.mpr ⟨h, by simpa using ⟨hkey, hv⟩⟩

lemma gives_dictOf (h : EntriesCallOnly P es) : Gives (CallsOnly P) (dictOf es) := by
  unfold dictOf
  split
  · simp
  · refine Gives.ok_iff.mpr (callsOnly_dict.mpr ?_)
    refine List.foldlRecOn es _ (by simp [EntriesCallOnly]) fun _ hes e he => ?_
    exact entriesCallOnly_setEntry hes (h e he).1 (h e he).2

/-! ### Arguments and filters -/

/-- All that can be called in arguments has a property. -/
structure Arguments.CallOnly (P : Callable → Prop) (a : Arguments) : Prop where
  placed : ∀ v ∈ a.placed, v.CallsOnly P
  named : TableCallsOnly P a.named

lemma Arguments.callOnly_empty : Arguments.CallOnly P {} := ⟨by simp, by simp⟩

lemma Arguments.CallOnly.mono {Q : Callable → Prop} (hPQ : ∀ c, P c → Q c) (h : a.CallOnly P) :
    a.CallOnly Q :=
  ⟨fun v hv => (h.placed v hv).mono hPQ, h.named.mono hPQ⟩

lemma Arguments.CallOnly.gives_add {passing : Passing} (h : a.CallOnly P) (hv : v.CallsOnly P) :
    Gives (Arguments.CallOnly P) (a.add passing v) := by
  cases passing with
  | placed => exact Gives.ok_iff.mpr ⟨List.forall_mem_append.mpr ⟨h.placed, by simpa using hv⟩, h.named⟩
  | named n => exact Gives.ok_iff.mpr ⟨h.placed, h.named.set hv⟩
  | spread =>
    exact (gives_items hv).bind fun vs hvs =>
      Gives.ok_iff.mpr ⟨List.forall_mem_append.mpr ⟨h.placed, hvs⟩, h.named⟩
  | spreadNamed =>
    cases v with
    | dict es =>
      refine Gives.foldlM h fun b hb e he => ?_
      dsimp only
      cases e.1.asText? with
      | none => exact Gives.throw
      | some n => exact Gives.ok_iff.mpr ⟨hb.placed, hb.named.set (callsOnly_dict.mp hv e he).2⟩
    | _ => simp [Arguments.add]

lemma Arguments.CallOnly.gives_spreadTo {parameters : List Text} (h : a.CallOnly P) :
    Gives (fun os => ∀ o ∈ os, OptionCallsOnly P o) (a.spreadTo what parameters) := by
  unfold Arguments.spreadTo
  dsimp only
  split
  · simp
  · split
    · simp
    · refine Gives.ok_iff.mpr (List.forall_mem_append.mpr ⟨?_, ?_⟩)
      · simpa using h.placed
      · intro o ho
        obtain ⟨n, -, rfl⟩ := List.mem_map.mp ho
        exact optionCallsOnly_get? h.named

/-- What a macro gets for a call: its parameters get the arguments, by places and then by names, and all that
can be called in the other values has a property. -/
structure MacroValues.Fit (P : Callable → Prop) (a : Arguments) (parameters : List Text)
    (vs : MacroValues) : Prop where
  parameters_eq : vs.parameters = (a.placed.take parameters.length).map some ++
    (parameters.drop a.placed.length).map fun n => a.named.get? n
  specials : TableCallsOnly P vs.specials
  mem_specialNames : ∀ e ∈ vs.specials, e.1 ∈ specialNames

lemma MacroValues.Fit.parameters {parameters : List Text} {vs : MacroValues} (h : vs.Fit P a parameters)
    (ha : a.CallOnly P) : ∀ o ∈ vs.parameters, OptionCallsOnly P o := by
  rw [h.parameters_eq]
  refine List.forall_mem_append.mpr ⟨?_, ?_⟩
  · exact List.forall_mem_map.mpr fun v hv => optionCallsOnly_some.mpr (ha.placed v (List.mem_of_mem_take hv))
  · intro o ho
    obtain ⟨n, -, rfl⟩ := List.mem_map.mp ho
    exact optionCallsOnly_get? ha.named

namespace Filter

lemma gives_onText {f : Text → Text} (h : v.CallsOnly P) : Gives (CallsOnly P) (onText f v) := by
  have hsoft : Gives (CallsOnly P) (soft v) := by
    unfold soft
    split
    · simp
    · simp
    · exact Gives.map (Gives.trivial fun _ => .text)
  refine hsoft.bind fun w hw => ?_
  split <;> simp [hw]

lemma gives_trim {characters : Option Value} (h : v.CallsOnly P) :
    Gives (CallsOnly P) (trim v characters) := by
  unfold trim
  repeat' split
  all_goals first | exact gives_onText h | exact Gives.error

lemma gives_join {separator key : Option Value} : Gives (CallsOnly P) (join s v separator key) := by
  unfold join
  dsimp only
  refine Gives.after fun _ => ?_
  split
  all_goals
    refine Gives.after fun _ => ?_
    split <;> exact Gives.after fun _ => Gives.after fun _ => by simp

lemma gives_default {alternative boolean : Option Value} (h : v.CallsOnly P)
    (halternative : OptionCallsOnly P alternative) :
    Gives (CallsOnly P) (default v alternative boolean) := by
  have hother : (alternative.getD (.text [])).CallsOnly P := halternative.getD .text
  unfold default
  dsimp only
  split
  · exact Gives.pure_iff.mpr hother
  · refine Gives.after fun strictly => Gives.after fun _ => ?_
    split
    · exact Gives.pure_iff.mpr hother
    · exact Gives.pure_iff.mpr h

lemma gives_apply (h : v.CallsOnly P) (ha : a.CallOnly P) :
    Gives (CallsOnly P) (apply s n v a) := by
  unfold apply
  repeat' split
  · exact Gives.after fun _ => gives_onText h
  · refine Gives.after fun os => ?_
    split <;> exact gives_trim h
  · refine Gives.after fun os => ?_
    split <;> exact gives_join
  · refine (ha.gives_spreadTo).bind fun os hos => ?_
    split
    · exact gives_default h (hos _ List.mem_cons_self)
    · exact gives_default h optionCallsOnly_none
  · refine Gives.after fun _ => ?_
    exact Gives.after fun _ => by simp
  · refine Gives.after fun _ => ?_
    exact Gives.after fun _ => by simp
  · refine Gives.after fun _ => ?_
    exact Gives.after fun _ => by simp
  · exact Gives.error

end Filter

/-! ### Calls -/

end

end Template

end ComponentTags
