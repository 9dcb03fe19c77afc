/-
# What can be called in a value

A value may be called, or hold values that may.  Computing with values makes nothing new that can be
called: what an operation gives has only what its arguments had (`CallsOnly`).
-/
import ComponentTags.Proofs.Table
import ComponentTags.Value.Access

namespace ComponentTags

/-! ### Results -/

/-- What was computed has a property, unless computing it has failed. -/
def Gives {α : Type} (Q : α → Prop) (r : Except Failure α) : Prop := ∀ v, r = .ok v → Q v

namespace Gives

variable {α β : Type} {Q R : α → Prop} {S : β → Prop} {r : Except Failure α} {f : Failure} {v : α}

@[simp] lemma ok_iff : Gives Q (.ok v) ↔ Q v :=
  ⟨fun h => h v rfl, fun h w hw => by cases hw; exact h⟩

@[simp] lemma pure_iff : Gives Q (pure v) ↔ Q v := ok_iff

@[simp] lemma error : Gives Q (.error f) := fun _ h => by cases h

@[simp] lemma throw : Gives Q (throw f) := error

lemma mono (h : Gives Q r) (hQ : ∀ v, Q v → R v) : Gives R r := fun v hv => hQ v (h v hv)

lemma trivial (h : ∀ v, Q v) : Gives Q r := fun v _ => h v

lemma bind {k : α → Except Failure β} (h : Gives Q r) (hk : ∀ v, Q v → Gives S (k v)) :
    Gives S (r >>= k) := by
  cases r with
  | error f => exact error
  | ok v => exact hk v (ok_iff.mp h)

/-- What was computed before does not matter. -/
lemma after {k : α → Except Failure β} (hk : ∀ v, Gives S (k v)) : Gives S (r >>= k) :=
  bind (trivial (Q := fun _ => True) fun _ => True.intro) fun v _ => hk v

lemma throw_bind {k : α → Except Failure β} : Gives S ((MonadExcept.throw f : Except Failure α) >>= k) :=
  bind (Q := fun _ => False) throw fun _ hno => hno.elim

lemma map {k : α → β} (h : Gives (fun v => S (k v)) r) : Gives S (r.map k) := by
  cases r with
  | error f => exact error
  | ok v => exact ok_iff.mpr (h v rfl)

lemma foldlM {k : β → α → Except Failure β} {vs : List α} {first : β} (hfirst : S first)
    (h : ∀ b, S b → ∀ v ∈ vs, Gives S (k b v)) : Gives S (vs.foldlM k first) := by
  induction vs generalizing first with
  | nil => simpa using hfirst
  | cons v rest ih =>
    rw [List.foldlM_cons]
    exact (h first hfirst v List.mem_cons_self).bind fun b hb =>
      ih hb fun b hb u hu => h b hb u (List.mem_cons_of_mem _ hu)

end Gives

lemma exists_of_bind_eq_ok {α β : Type} {r : Except Failure α} {k : α → Except Failure β} {w : β}
    (h : (r >>= k) = .ok w) : ∃ v, r = .ok v ∧ k v = .ok w := by
  cases r with
  | error f => cases h
  | ok v => exact ⟨v, rfl, h⟩

namespace Value

/-! ### Values -/

/-- All that can be called in a value has a property. -/
inductive CallsOnly (P : Callable → Prop) : Value → Prop where
  | none : CallsOnly P none
  | bool {b : Bool} : CallsOnly P (bool b)
  | int {n : Int} : CallsOnly P (int n)
  | real {x : Float} : CallsOnly P (real x)
  | complex {t : Text} : CallsOnly P (complex t)
  | text {t : Text} : CallsOnly P (text t)
  | markup {t : Text} : CallsOnly P (markup t)
  | bytes {data : List UInt8} : CallsOnly P (bytes data)
  | list {vs : List Value} (h : ∀ v ∈ vs, CallsOnly P v) : CallsOnly P (list vs)
  | tuple {vs : List Value} (h : ∀ v ∈ vs, CallsOnly P v) : CallsOnly P (tuple vs)
  | set {vs : List Value} (h : ∀ v ∈ vs, CallsOnly P v) : CallsOnly P (set vs)
  | frozenset {vs : List Value} (h : ∀ v ∈ vs, CallsOnly P v) : CallsOnly P (frozenset vs)
  | dict {es : List (Value × Value)} (hkeys : ∀ e ∈ es, CallsOnly P e.1)
    (h : ∀ e ∈ es, CallsOnly P e.2) : CallsOnly P (dict es)
  | undefined {strict : Bool} {reason : Text} : CallsOnly P (undefined strict reason)
  | component {home type : Text} {listed : Option (List Text)} {ms : List (Text × Value)}
    {recovery : Option Recovery} (h : ∀ m ∈ ms, CallsOnly P m.2) :
    CallsOnly P (component home type listed ms recovery)
  | context {dot root : Value} {ms : List (Text × Value)} (hdot : CallsOnly P dot)
    (hroot : CallsOnly P root) (h : ∀ m ∈ ms, CallsOnly P m.2) : CallsOnly P (context dot root ms)
  | callable {c : Callable} (h : P c) : CallsOnly P (callable c)
  | method {receiver : Value} {name : Text} (h : CallsOnly P receiver) :
    CallsOnly P (method receiver name)
  | loop {place : Nat} {vs : List Value} (h : ∀ v ∈ vs, CallsOnly P v) : CallsOnly P (loop place vs)
  | range {start stop step : Int} : CallsOnly P (range start stop step)
  | entries {es : List (Value × Value)} (hkeys : ∀ e ∈ es, CallsOnly P e.1)
    (h : ∀ e ∈ es, CallsOnly P e.2) : CallsOnly P (entries es)
  | other {type : Text} : CallsOnly P (other type)

attribute [simp] CallsOnly.none CallsOnly.bool CallsOnly.int CallsOnly.real CallsOnly.complex
  CallsOnly.text CallsOnly.markup CallsOnly.bytes CallsOnly.undefined CallsOnly.range CallsOnly.other

/-- All that can be called in entries has a property. -/
def EntriesCallOnly (P : Callable → Prop) (es : List (Value × Value)) : Prop :=
  ∀ e ∈ es, e.1.CallsOnly P ∧ e.2.CallsOnly P

/-- All that can be called in the values of a table has a property. -/
def TableCallsOnly (P : Callable → Prop) (t : Table Text Value) : Prop := ∀ m ∈ t, m.2.CallsOnly P

section

variable {P Q : Callable → Prop} {vs : List Value} {es : List (Value × Value)}
  {t new : Table Text Value} {v : Value} {n : Text}

@[simp] lemma callsOnly_list : (list vs).CallsOnly P ↔ ∀ v ∈ vs, v.CallsOnly P :=
  ⟨fun | .list h => h, .list⟩

@[simp] lemma callsOnly_tuple : (tuple vs).CallsOnly P ↔ ∀ v ∈ vs, v.CallsOnly P :=
  ⟨fun | .tuple h => h, .tuple⟩

@[simp] lemma callsOnly_set : (set vs).CallsOnly P ↔ ∀ v ∈ vs, v.CallsOnly P :=
  ⟨fun | .set h => h, .set⟩

@[simp] lemma callsOnly_frozenset : (frozenset vs).CallsOnly P ↔ ∀ v ∈ vs, v.CallsOnly P :=
  ⟨fun | .frozenset h => h, .frozenset⟩

@[simp] lemma callsOnly_dict : (dict es).CallsOnly P ↔ EntriesCallOnly P es :=
  ⟨fun | .dict hkeys h => fun e he => ⟨hkeys e he, h e he⟩,
    fun h => .dict (fun e he => (h e he).1) fun e he => (h e he).2⟩

@[simp] lemma callsOnly_component {home type : Text} {listed : Option (List Text)}
    {recovery : Option Recovery} :
    (component home type listed t recovery).CallsOnly P ↔ TableCallsOnly P t :=
  ⟨fun | .component h => h, .component⟩

@[simp] lemma callsOnly_context {dot root : Value} : (context dot root t).CallsOnly P ↔
    dot.CallsOnly P ∧ root.CallsOnly P ∧ TableCallsOnly P t :=
  ⟨fun | .context hdot hroot h => ⟨hdot, hroot, h⟩, fun h => .context h.1 h.2.1 h.2.2⟩

@[simp] lemma callsOnly_callable {c : Callable} : (callable c).CallsOnly P ↔ P c :=
  ⟨fun | .callable h => h, .callable⟩

@[simp] lemma callsOnly_method {receiver : Value} :
    (method receiver n).CallsOnly P ↔ receiver.CallsOnly P :=
  ⟨fun | .method h => h, .method⟩

@[simp] lemma callsOnly_loop {place : Nat} : (loop place vs).CallsOnly P ↔ ∀ v ∈ vs, v.CallsOnly P :=
  ⟨fun | .loop h => h, .loop⟩

@[simp] lemma callsOnly_entries : (entries es).CallsOnly P ↔ EntriesCallOnly P es :=
  ⟨fun | .entries hkeys h => fun e he => ⟨hkeys e he, h e he⟩,
    fun h => .entries (fun e he => (h e he).1) fun e he => (h e he).2⟩

/-- A weaker property holds as well. -/
lemma CallsOnly.mono (hPQ : ∀ c, P c → Q c) (h : v.CallsOnly P) : v.CallsOnly Q := by
  induction h with
  | list _ ih => exact .list ih
  | tuple _ ih => exact .tuple ih
  | set _ ih => exact .set ih
  | frozenset _ ih => exact .frozenset ih
  | dict _ _ hkeys ih => exact .dict hkeys ih
  | component _ ih => exact .component ih
  | context _ _ _ hdot hroot ih => exact .context hdot hroot ih
  | callable h => exact .callable (hPQ _ h)
  | method _ ih => exact .method ih
  | loop _ ih => exact .loop ih
  | entries _ _ hkeys ih => exact .entries hkeys ih
  | _ => constructor

/-! ### Tables -/

namespace TableCallsOnly

lemma mono (hPQ : ∀ c, P c → Q c) (h : TableCallsOnly P t) : TableCallsOnly Q t :=
  fun m hm => (h m hm).mono hPQ

@[simp] lemma nil : TableCallsOnly P [] := fun _ h => by cases h

lemma set (h : TableCallsOnly P t) (hv : v.CallsOnly P) : TableCallsOnly P (t.set n v) := by
  intro m hm
  rcases Table.mem_of_mem_set hm with hm | rfl
  · exact h m hm
  · exact hv

lemma setAll (h : TableCallsOnly P t) (hnew : TableCallsOnly P new) :
    TableCallsOnly P (t.setAll new) :=
  fun m hm => (Table.mem_of_mem_setAll hm).elim (h m) (hnew m)

lemma ofEntries (h : TableCallsOnly P new) : TableCallsOnly P (Table.ofEntries new) := nil.setAll h

lemma get? (h : TableCallsOnly P t) (hv : t.get? n = some v) : v.CallsOnly P :=
  h (n, v) (Table.mem_of_get? hv)

lemma filterMap {f : Text × Value → Option (Text × Value)} (h : TableCallsOnly P t)
    (hf : ∀ m m', f m = some m' → m'.2 = m.2) : TableCallsOnly P (t.filterMap f) := by
  intro m' hm'
  obtain ⟨m, hm, hm'⟩ := List.mem_filterMap.mp hm'
  rw [hf m m' hm']
  exact h m hm

lemma entries (h : TableCallsOnly P t) :
    EntriesCallOnly P (t.map fun (n, v) => (Value.text n, v)) := by
  intro e he
  obtain ⟨m, hm, rfl⟩ := List.mem_map.mp he
  exact ⟨.text, h m hm⟩

lemma ofLocals (h : TableCallsOnly P t) : (Value.ofLocals t).CallsOnly P :=
  callsOnly_dict.mpr h.entries

end TableCallsOnly

/-- What may be found has a property. -/
def OptionCallsOnly (P : Callable → Prop) (o : Option Value) : Prop := ∀ v ∈ o, v.CallsOnly P

@[simp] lemma optionCallsOnly_none : OptionCallsOnly P Option.none := fun _ h => by cases h

@[simp] lemma optionCallsOnly_some : OptionCallsOnly P (some v) ↔ v.CallsOnly P := by
  simp [OptionCallsOnly]

lemma OptionCallsOnly.getD {o : Option Value} (h : OptionCallsOnly P o) (hv : v.CallsOnly P) :
    (o.getD v).CallsOnly P := by
  cases o with
  | none => exact hv
  | some w => exact optionCallsOnly_some.mp h

lemma optionCallsOnly_get? (h : TableCallsOnly P t) : OptionCallsOnly P (t.get? n) :=
  fun _ hv => h.get? hv

lemma optionCallsOnly_getElem? {i : Nat} (h : ∀ v ∈ vs, v.CallsOnly P) : OptionCallsOnly P vs[i]? :=
  fun v hv => h v (List.mem_of_getElem? hv)

/-! ### Parts of values -/

variable {m : Missing} {key : Value}

@[simp] lemma callsOnly_part : (m.part v key).CallsOnly P := by
  unfold Missing.part
  split <;> exact .undefined

@[simp] lemma callsOnly_name : (m.name n).CallsOnly P := .undefined

@[simp] lemma callsOnly_reason : (m.reason n).CallsOnly P := .undefined

@[simp] lemma callsOnly_mem_rangeItems {start stop step : Int} :
    ∀ v ∈ rangeItems start stop step, v.CallsOnly P := by
  simp [rangeItems]

lemma gives_items (h : v.CallsOnly P) : Gives (fun vs => ∀ v ∈ vs, v.CallsOnly P) v.items := by
  cases v with
  | list vs => simpa [items] using h
  | tuple vs => simpa [items] using h
  | set vs => simpa [items] using h
  | frozenset vs => simpa [items] using h
  | dict es =>
    intro vs hvs v hv
    cases hvs
    obtain ⟨e, he, rfl⟩ := List.mem_map.mp hv
    exact (callsOnly_dict.mp h e he).1
  | entries es =>
    intro vs hvs v hv
    cases hvs
    obtain ⟨e, he, rfl⟩ := List.mem_map.mp hv
    simpa using callsOnly_entries.mp h e he
  | undefined strict reason => cases strict <;> simp [items]
  | range start stop step => exact Gives.ok_iff.mpr callsOnly_mem_rangeItems
  | _ => simp [items]

lemma optionCallsOnly_itemAt? {place : Int} (h : ∀ v ∈ vs, v.CallsOnly P) :
    OptionCallsOnly P (itemAt? vs place) := by
  intro v hv
  unfold itemAt? at hv
  dsimp only at hv
  split_ifs at hv <;> first | cases hv | exact h v (List.mem_of_getElem? hv)

lemma optionCallsOnly_entryOf? (h : EntriesCallOnly P es) : OptionCallsOnly P (entryOf? es key) := by
  intro v hv
  obtain ⟨e, he, rfl⟩ := Option.map_eq_some_iff.mp hv
  exact (h e (List.mem_of_find?_eq_some he)).2

lemma optionCallsOnly_loopAttribute? {place : Nat} (h : ∀ v ∈ vs, v.CallsOnly P) :
    OptionCallsOnly P (loopAttribute? place vs n) := by
  unfold loopAttribute?
  dsimp only
  repeat' split
  all_goals first | exact optionCallsOnly_getElem? h | simp

lemma gives_attribute? (h : v.CallsOnly P) : Gives (OptionCallsOnly P) (v.attribute? n) := by
  cases v with
  | component home type listed members recovery =>
    exact Gives.ok_iff.mpr (optionCallsOnly_get? (callsOnly_component.mp h))
  | context dot root locals =>
    obtain ⟨hdot, hroot, hlocals⟩ := callsOnly_context.mp h
    unfold attribute?
    split_ifs <;> simp [hdot, hroot, hlocals, hlocals.ofLocals]
  | dict es =>
    unfold attribute?
    exact Gives.ok_iff.mpr (by split <;> simp [callsOnly_dict.mp h])
  | loop place vs =>
    exact Gives.ok_iff.mpr (optionCallsOnly_loopAttribute? (callsOnly_loop.mp h))
  | _ => simp [attribute?]

lemma gives_item? (h : v.CallsOnly P) : Gives (OptionCallsOnly P) (v.item? key) := by
  cases v with
  | undefined => simp [item?]
  | dict es =>
    refine Gives.ok_iff.mpr ?_
    split
    · exact optionCallsOnly_entryOf? (callsOnly_dict.mp h)
    · simp
  | list vs =>
    cases hkey : key.asInt? <;> simp [item?, hkey, optionCallsOnly_itemAt? (callsOnly_list.mp h)]
  | tuple vs =>
    cases hkey : key.asInt? <;> simp [item?, hkey, optionCallsOnly_itemAt? (callsOnly_tuple.mp h)]
  | range start stop step =>
    cases hkey : key.asInt? <;> simp [item?, hkey, optionCallsOnly_itemAt? callsOnly_mem_rangeItems]
  | text t | markup t | bytes data =>
    cases hkey : key.asInt? with
    | none => simp [item?, hkey]
    | some i =>
      simp only [item?, hkey]
      exact Gives.ok_iff.mpr (optionCallsOnly_itemAt? (by simp))
  | _ => cases hkey : key.asInt? <;> simp [item?, hkey]

lemma gives_lookUpAttribute (h : v.CallsOnly P) : Gives (CallsOnly P) (lookUpAttribute m v n) := by
  refine (gives_attribute? h).bind fun found hfound => ?_
  cases found with
  | some w => simpa using hfound
  | none =>
    refine (gives_item? h).bind fun found hfound => ?_
    cases found with
    | some w => simpa using hfound
    | none => simp

lemma gives_lookUpItem (h : v.CallsOnly P) : Gives (CallsOnly P) (lookUpItem m v key) := by
  refine (gives_item? h).bind fun found hfound => ?_
  cases found with
  | some w => simpa using hfound
  | none =>
    cases hname : key.asText? with
    | none => simp
    | some name =>
      refine (gives_attribute? h).bind fun found hfound => ?_
      cases found with
      | some w => simpa using hfound
      | none => simp

/-! ### Operators -/

lemma mem_of_mem_sliced {α : Type} {xs : List α} {start stop step : Option Int} {x : α}
    (h : x ∈ sliced xs start stop step) : x ∈ xs := by
  unfold sliced at h
  dsimp only at h
  split at h <;>
  · obtain ⟨i, -, hi⟩ := List.mem_filterMap.mp h
    exact List.mem_of_getElem? hi

lemma gives_onInts {o : Operator} {a b : Int} : Gives (CallsOnly P) (onInts o a b) := by
  unfold onInts; split <;> (try split_ifs) <;> simp

lemma gives_onReals {o : Operator} {a b : Float} : Gives (CallsOnly P) (onReals o a b) := by
  unfold onReals; split <;> (try split_ifs) <;> simp

lemma optionCallsOnly_repeated? {count : Int} (h : v.CallsOnly P) :
    OptionCallsOnly P (v.repeated? count) := by
  have hrepeated : ∀ vs : List Value, (∀ v ∈ vs, v.CallsOnly P) →
      ∀ v ∈ (List.replicate count.toNat vs).flatten, v.CallsOnly P := by
    intro vs hvs v hv
    obtain ⟨l, hl, hv⟩ := List.mem_flatten.mp hv
    rw [List.eq_of_mem_replicate hl] at hv
    exact hvs v hv
  cases v with
  | list vs => exact optionCallsOnly_some.mpr (.list (hrepeated vs (callsOnly_list.mp h)))
  | tuple vs => exact optionCallsOnly_some.mpr (.tuple (hrepeated vs (callsOnly_tuple.mp h)))
  | _ => simp [repeated?]

lemma gives_of_joined? {a b : Value} (ha : a.CallsOnly P) (hb : b.CallsOnly P)
    {r : Except Failure Value} (h : joined? a b = some r) : Gives (CallsOnly P) r := by
  unfold joined? at h
  split at h <;> cases h
  case h_7 => exact Gives.ok_iff.mpr (.list (List.forall_mem_append.mpr
    ⟨callsOnly_list.mp ha, callsOnly_list.mp hb⟩))
  case h_8 => exact Gives.ok_iff.mpr (.tuple (List.forall_mem_append.mpr
    ⟨callsOnly_tuple.mp ha, callsOnly_tuple.mp hb⟩))
  all_goals simp

lemma gives_operate {o : Operator} {a b : Value} (ha : a.CallsOnly P) (hb : b.CallsOnly P) :
    Gives (CallsOnly P) (operate o a b) := by
  unfold operate
  repeat' split
  · simp
  · simp
  · exact gives_onInts
  · exact gives_onReals
  · cases hjoined : joined? a b with
    | none => simp
    | some r => simpa using gives_of_joined? ha hb hjoined
  · next hrepeated =>
    obtain ⟨count, -, hrepeated⟩ := Option.bind_eq_some_iff.mp hrepeated
    exact Gives.ok_iff.mpr (optionCallsOnly_repeated? ha _ hrepeated)
  · next hrepeated _ =>
    obtain ⟨count, -, hrepeated⟩ := Option.bind_eq_some_iff.mp hrepeated
    exact Gives.ok_iff.mpr (optionCallsOnly_repeated? hb _ hrepeated)
  all_goals exact Gives.error

lemma gives_signed {negative : Bool} : Gives (CallsOnly P) (signed negative v) := by
  unfold signed
  repeat' split
  all_goals simp

end

end Value

end ComponentTags
